import BridgeLedger.Proofs.Runs

/-!
# Faults that stay pending

A fault that is still pending after a conversation has had no part in it: if it had been taken away beforehand, all
would have gone the same way, and it would be missing afterwards (`Line.Overlooks`). This holds of one delivery, and so
of whatever consists of deliveries, up to a whole step (`Session.step_overlooks`). It follows that a fault which is
pending after a run can be left out of the run, with the step that prepared it (`Session.run_overlooks`).
-/

namespace BridgeLedger

/-! ## One fault less -/

/-- The other server is this one with one of its pending faults taken away. -/
def Server.Relieved (server : Server) (fault : Fault) (other : Server) : Prop :=
  ∃ older newer, server.faults = older ++ fault :: newer ∧ other = { server with faults := older ++ newer }

def Line.Relieved (line : Line) (fault : Fault) (other : Line) : Prop :=
  ∃ server, line.server.Relieved fault server ∧ other = { line with server }

def Line.withFaults (line : Line) (faults : List Fault) : Line :=
  { line with server := { line.server with faults } }

def Session.Relieved (session : Session) (fault : Fault) (other : Session) : Prop :=
  ∃ server, session.server.Relieved fault server ∧ other = { session with server }

theorem Server.Relieved.of_strike {server : Server} {kind : EventKind} {text : String} {fault : Fault}
    (h : (server.strike kind text).1 = some fault) :
    fault.kind = kind ∧ server.Relieved fault (server.strike kind text).2 := by
  obtain ⟨hfits, older, newer, hfaults, hmiss⟩ := List.find?_eq_some_iff_append.mp h
  have hkind : fault.kind = kind := by
    simp only [Fault.fits, Bool.and_eq_true, beq_iff_eq] at hfits
    exact hfits.1
  have hmiss' : ∀ other ∈ older, ¬ other.fits kind text = true := by
    intro other hmem
    simpa using hmiss other hmem
  refine ⟨hkind, older, newer, hfaults, ?_⟩
  simp only [Server.strike, hfaults, List.eraseP_append_right _ hmiss', List.eraseP_cons_of_pos hfits]

/-! ## What strikes -/

theorem eraseP_eq_append_cons {α : Type} {p : α → Bool} {a : α} : ∀ {l older newer : List α},
    l.eraseP p = older ++ a :: newer → ∃ before after, l = before ++ a :: after ∧
      (before ++ after).find? p = l.find? p ∧ (before ++ after).eraseP p = older ++ newer
  | [], older, newer, h => by simp at h
  | x :: l, older, newer, h => by
    by_cases hx : p x = true
    · rw [List.eraseP_cons_of_pos hx] at h
      exact ⟨x :: older, newer, by rw [h]; rfl, by simp [hx], by simp [hx]⟩
    · rw [List.eraseP_cons_of_neg hx] at h
      cases older with
      | nil =>
        obtain ⟨rfl, rfl⟩ := List.cons.inj h
        exact ⟨[], l, rfl, by simp [hx], by simp⟩
      | cons y older =>
        obtain ⟨rfl, hl⟩ := List.cons.inj h
        obtain ⟨before, after, rfl, hfind, herase⟩ := eraseP_eq_append_cons hl
        exact ⟨x :: before, after, rfl, by simp [hx, ← hfind], by simp [hx, herase]⟩

section
variable {server after : Server} {fault : Fault}

theorem Server.strike_overlooks {kind : EventKind} {text : String}
    (h : (server.strike kind text).2.Relieved fault after) :
    ∃ before, server.Relieved fault before ∧ before.strike kind text = ((server.strike kind text).1, after) := by
  obtain ⟨older, newer, hfaults, rfl⟩ := h
  obtain ⟨before, later, hsplit, hfind, herase⟩ := eraseP_eq_append_cons hfaults
  refine ⟨{ server with faults := before ++ later }, ⟨before, later, hsplit, rfl⟩, ?_⟩
  simp only [Server.strike, hfind, herase]

theorem Server.accept_overlooks (h : server.accept.2.Relieved fault after) :
    ∃ before, server.Relieved fault before ∧ before.accept = (server.accept.1, after) := by
  rcases hs : server.strike .connect "" with ⟨struck, left⟩
  have hleft : (server.strike .connect "").2.Relieved fault after := by
    rw [hs]
    cases struck <;> simpa only [Server.accept, hs] using h
  obtain ⟨before, hbefore, hstrike⟩ := Server.strike_overlooks hleft
  rw [hs] at hstrike
  refine ⟨before, hbefore, ?_⟩
  cases struck <;> simp only [Server.accept, hs, hstrike]

end

/-! ## Conversations -/

def Line.Overlooks {α : Type} (talk : Line → α × Line) : Prop :=
  ∀ line fault after, (talk line).2.Relieved fault after →
    ∃ before, line.Relieved fault before ∧ talk before = ((talk line).1, after)

section
variable {α β : Type}

/-- A conversation that goes on in some way after each outcome of a first part. -/
theorem Line.Overlooks.andThen {first : Line → α × Line} {talk : Line → β × Line} (hfirst : Line.Overlooks first)
    (hrest : ∀ a, ∃ rest : Line → β × Line, Line.Overlooks rest ∧
      ∀ line after, first line = (a, after) → talk line = rest after) : Line.Overlooks talk := by
  intro line fault after h
  obtain ⟨rest, hoverlooks, htalk⟩ := hrest (first line).1
  rw [htalk line _ rfl] at h ⊢
  obtain ⟨middle, hmiddle, hresteq⟩ := hoverlooks _ fault after h
  obtain ⟨before, hbefore, hfirsteq⟩ := hfirst line fault middle hmiddle
  exact ⟨before, hbefore, by rw [htalk before middle hfirsteq, hresteq]⟩

/-- A conversation that goes on in a way that depends on what the line holds besides faults. -/
theorem Line.overlooks_of_reading {talk : Line → β × Line}
    (h : ∀ here : Line, ∃ rest : Line → β × Line, Line.Overlooks rest ∧
      ∀ faults, talk (here.withFaults faults) = rest (here.withFaults faults)) : Line.Overlooks talk := by
  intro line fault after hafter
  obtain ⟨rest, hoverlooks, htalk⟩ := h line
  have hline : talk line = rest line := htalk line.server.faults
  rw [hline] at hafter ⊢
  obtain ⟨before, hbefore, heq⟩ := hoverlooks line fault after hafter
  refine ⟨before, hbefore, ?_⟩
  obtain ⟨_, ⟨older, newer, _, rfl⟩, rfl⟩ := hbefore
  exact (htalk (older ++ newer)).trans heq

theorem Line.overlooks_of_commutes (answer : α) (change : Line → Line)
    (h : ∀ line faults, change (line.withFaults faults) = (change line).withFaults faults) :
    Line.Overlooks fun line => (answer, change line) := by
  intro line fault after hafter
  obtain ⟨_, ⟨older, newer, hfaults, rfl⟩, rfl⟩ := hafter
  have hsame : (change line).server.faults = line.server.faults :=
    congrArg (·.server.faults) (h line line.server.faults)
  rw [hsame] at hfaults
  refine ⟨line.withFaults (older ++ newer), ⟨_, ⟨older, newer, hfaults, rfl⟩, rfl⟩, ?_⟩
  exact congrArg (Prod.mk answer) (h line (older ++ newer))

theorem Line.overlooks_answer (answer : α) : Line.Overlooks fun line => (answer, line) :=
  Line.overlooks_of_commutes answer id fun _ _ => rfl

theorem Line.overlooks_store (answer : α) (db : Database) :
    Line.Overlooks fun line => (answer, line.withDatabase db) :=
  Line.overlooks_of_commutes answer _ fun _ _ => rfl

theorem Line.deliver_overlooks (message : Sent) : Line.Overlooks fun line => line.deliver message := by
  intro ⟨server, isOpen, sent⟩ fault after h
  cases isOpen with
  | false =>
    refine ⟨after, h, ?_⟩
    obtain ⟨_, _, rfl⟩ := h
    rfl
  | true =>
    rcases hs : server.strike message.kind message.text with ⟨struck, left⟩
    obtain ⟨last, hlast, rfl⟩ := h
    have hleft : (server.strike message.kind message.text).2.Relieved fault last := by
      rw [hs]
      cases struck <;> simpa only [Line.deliver, ite_true, hs] using hlast
    obtain ⟨before, hbefore, hstrike⟩ := Server.strike_overlooks hleft
    rw [hs] at hstrike
    refine ⟨_, ⟨before, hbefore, rfl⟩, ?_⟩
    cases struck <;> simp only [Line.deliver, ite_true, hs, hstrike]

theorem Line.prepare_overlooks (query : Query α) : Line.Overlooks fun line => line.prepare query := by
  apply (Line.deliver_overlooks (.prepare query.text)).andThen
  intro outcome
  cases outcome with
  | error cause => exact ⟨_, Line.overlooks_answer (.error cause), fun line _ h => by simp only [Line.prepare, h]⟩
  | ok _ =>
    refine ⟨fun line => (if query.tables.all line.server.database.has then .ok ()
      else .error (.refused .undefinedTable), line), ?_, fun line _ h => by simp only [Line.prepare, h]⟩
    apply Line.overlooks_of_reading
    exact fun here => ⟨_, Line.overlooks_answer (if query.tables.all here.server.database.has then .ok ()
      else .error (.refused .undefinedTable)), fun _ => rfl⟩

theorem Line.execute_overlooks (query : Query α) : Line.Overlooks fun line => line.execute query := by
  apply (Line.deliver_overlooks (.execute query.text query.parameters)).andThen
  intro outcome
  cases outcome with
  | error cause => exact ⟨_, Line.overlooks_answer (.error cause), fun line _ h => by simp only [Line.execute, h]⟩
  | ok _ =>
    refine ⟨fun line => ((query.effect line.server.clock line.server.database).1,
      line.withDatabase (query.effect line.server.clock line.server.database).2), ?_,
      fun line _ h => by simp only [Line.execute, h]⟩
    apply Line.overlooks_of_reading
    exact fun here => ⟨_, Line.overlooks_store (query.effect here.server.clock here.server.database).1
      (query.effect here.server.clock here.server.database).2, fun _ => rfl⟩

def Plan.inquire (query : Query α) (conclude : Except ServerError α → Except LedgerError α × List LogLine)
    (line : Line) : (Except LedgerError α × List LogLine) × Line :=
  let (answer, log, after) := Plan.askOver query conclude line
  ((answer, log), after)

def Plan.reportOn (wasOpen : Bool) (outcome : Except LedgerError α × List LogLine) (after : Line) : Report α where
  answer := outcome.1
  log := (if wasOpen && !after.isOpen then [connectionLost] else []) ++ outcome.2
  sent := after.sent

theorem Plan.carryOut_ask (query : Query α) (conclude : Except ServerError α → Except LedgerError α × List LogLine)
    (line : Line) :
    (Plan.ask query conclude).carryOut line =
      (Plan.reportOn line.isOpen (Plan.inquire query conclude { line with sent := [] }).1
        (Plan.inquire query conclude { line with sent := [] }).2,
        (Plan.inquire query conclude { line with sent := [] }).2) := rfl

theorem Plan.inquire_overlooks (query : Query α)
    (conclude : Except ServerError α → Except LedgerError α × List LogLine) :
    Line.Overlooks (Plan.inquire query conclude) := by
  apply (Line.prepare_overlooks query).andThen
  intro prepared
  cases prepared with
  | error cause =>
    refine ⟨_, Line.overlooks_answer (.error (.server cause), []), fun line _ h => ?_⟩
    simp only [Plan.inquire, Plan.askOver, h]
  | ok _ =>
    refine ⟨fun line => (conclude (line.execute query).1, (line.execute query).2), ?_, fun line _ h => ?_⟩
    · apply (Line.execute_overlooks query).andThen
      exact fun outcome => ⟨_, Line.overlooks_answer (conclude outcome), fun line _ h => by simp only [h]⟩
    · simp only [Plan.inquire, Plan.askOver, h]

theorem Plan.reportOn_overlooks (wasOpen : Bool) (outcome : Except LedgerError α × List LogLine) :
    Line.Overlooks fun line => (Plan.reportOn wasOpen outcome line, line) := by
  apply Line.overlooks_of_reading
  exact fun here => ⟨_, Line.overlooks_answer (Plan.reportOn wasOpen outcome here), fun _ => rfl⟩

theorem Plan.carryOut_overlooks (plan : Plan α) : Line.Overlooks plan.carryOut := by
  cases plan with
  | decided answer log => exact Line.overlooks_answer _
  | ask query conclude =>
    apply Line.overlooks_of_reading
    intro here
    let asking := Plan.inquire query conclude
    -- the messages of earlier calls are forgotten, the query is asked, and its outcome is reported
    refine ⟨fun line => (Plan.reportOn here.isOpen (asking { line with sent := [] }).1
      (asking { line with sent := [] }).2, (asking { line with sent := [] }).2), ?_, fun _ => Plan.carryOut_ask ..⟩
    apply (Line.overlooks_of_commutes () (fun line => { line with sent := [] }) fun _ _ => rfl).andThen
    intro _
    refine ⟨fun line => (Plan.reportOn here.isOpen (asking line).1 (asking line).2, (asking line).2), ?_,
      fun line _ h => by rw [← (Prod.mk.inj h).2]⟩
    apply (Plan.inquire_overlooks query conclude).andThen
    intro outcome
    exact ⟨_, Plan.reportOn_overlooks here.isOpen outcome, fun line _ h => by simp only [asking, h]⟩

/-! ## The transaction that creates the tables -/

theorem Line.resume_overlooks {stage : Stage} {rest : List Stage}
    (hrest : Line.Overlooks fun line => line.follow rest) : Line.Overlooks fun line => line.resume stage rest := by
  apply Line.overlooks_of_reading
  intro here
  cases heffect : stage.effect here.server.database with
  | error cause =>
    refine ⟨_, Line.overlooks_answer (.error cause), fun _ => ?_⟩
    simp only [Line.resume, Line.withFaults, heffect]
  | ok database =>
    refine ⟨fun line => (line.withDatabase database).follow rest, ?_, fun _ => ?_⟩
    · apply (Line.overlooks_store () database).andThen
      exact fun _ => ⟨_, hrest, fun line after h => by rw [← (Prod.mk.inj h).2]⟩
    · simp only [Line.resume, Line.withFaults, heffect]

theorem Line.follow_overlooks (stages : List Stage) : Line.Overlooks fun line => line.follow stages := by
  induction stages with
  | nil => exact Line.overlooks_answer _
  | cons stage rest ih =>
    apply (Line.deliver_overlooks stage.message).andThen
    intro outcome
    cases outcome with
    | error cause =>
      exact ⟨_, Line.overlooks_answer (.error (.server cause)), fun _ _ h => Line.follow_cons_error h⟩
    | ok _ => exact ⟨_, Line.resume_overlooks ih, fun _ _ h => Line.follow_cons_ok h⟩

theorem Line.conclude_overlooks (stored : Database) (outcome : Except LedgerError Unit) :
    Line.Overlooks fun line => line.conclude stored outcome := by
  cases outcome with
  | error cause =>
    apply (Line.deliver_overlooks (.simple "ROLLBACK")).andThen
    intro _
    exact ⟨_, Line.overlooks_store (.error cause) stored, fun line _ h => by simp only [Line.conclude, h]⟩
  | ok _ =>
    apply (Line.deliver_overlooks (.simple "COMMIT")).andThen
    intro delivered
    cases delivered with
    | error cause =>
      exact ⟨_, Line.overlooks_store (.error (.server cause)) stored, fun line _ h => by simp only [Line.conclude, h]⟩
    | ok _ => exact ⟨_, Line.overlooks_answer (.ok ()), fun line _ h => by simp only [Line.conclude, h]⟩

theorem Line.createTables_overlooks : Line.Overlooks Line.createTables := by
  apply Line.overlooks_of_reading
  intro here
  let stages := schemaStages here.server.clock
  refine ⟨fun line => (line.follow stages).2.conclude here.server.database (line.follow stages).1, ?_,
    fun _ => Line.createTables_eq _⟩
  apply (Line.follow_overlooks stages).andThen
  exact fun outcome => ⟨_, Line.conclude_overlooks here.server.database outcome, fun _ _ h => by simp only [h]⟩

theorem Server.provision_overlooks {server after : Server} {fault : Fault}
    (h : server.provision.2.Relieved fault after) :
    ∃ before, server.Relieved fault before ∧ before.provision = (server.provision.1, after) := by
  rcases haccept : server.accept with ⟨outcome, accepted⟩
  cases outcome with
  | error cause =>
    have hprovision : server.provision.2 = server.accept.2 := by simp only [Server.provision, haccept]
    rw [hprovision] at h
    obtain ⟨before, hbefore, heq⟩ := Server.accept_overlooks h
    rw [haccept] at heq
    exact ⟨before, hbefore, by simp only [Server.provision, haccept, heq]⟩
  | ok _ =>
    have hprovision : server.provision = accepted.createTables := by simp only [Server.provision, haccept]
    rw [hprovision] at h ⊢
    obtain ⟨_, ⟨middle, hmiddle, rfl⟩, htables⟩ :=
      Line.createTables_overlooks { server := accepted } fault { (Line.createTables { server := accepted }).2 with
        server := after } ⟨after, h, rfl⟩
    have hleft : server.accept.2.Relieved fault middle := by rw [haccept]; exact hmiddle
    obtain ⟨before, hbefore, heq⟩ := Server.accept_overlooks hleft
    rw [haccept] at heq
    refine ⟨before, hbefore, ?_⟩
    simp only [Server.provision, heq, Server.createTables, htables]

/-! ## Steps and runs -/

theorem Session.connect_overlooks {session after : Session} {fault : Fault}
    (h : session.connect.2.Relieved fault after) :
    ∃ before, session.Relieved fault before ∧ before.connect = (session.connect.1, after) := by
  rcases haccept : session.server.accept with ⟨outcome, accepted⟩
  obtain ⟨last, hlast, rfl⟩ := h
  have hleft : session.server.accept.2.Relieved fault last := by
    rw [haccept]
    cases outcome <;> simpa only [Session.connect, haccept] using hlast
  obtain ⟨before, hbefore, heq⟩ := Server.accept_overlooks hleft
  rw [haccept] at heq
  refine ⟨_, ⟨before, hbefore, rfl⟩, ?_⟩
  cases outcome <;> simp only [Session.connect, haccept, heq]

theorem Session.carryOut_overlooks (plan : Plan α) {session after : Session} {fault : Fault}
    (h : (session.carryOut plan).2.Relieved fault after) :
    ∃ before, session.Relieved fault before ∧ before.carryOut plan = ((session.carryOut plan).1, after) := by
  obtain ⟨last, hlast, rfl⟩ := h
  let line : Line := { server := session.server, isOpen := session.connection == .live }
  obtain ⟨_, ⟨before, hbefore, rfl⟩, heq⟩ :=
    Plan.carryOut_overlooks plan line fault { (plan.carryOut line).2 with server := last } ⟨last, hlast, rfl⟩
  refine ⟨_, ⟨before, hbefore, rfl⟩, ?_⟩
  simp only [Session.carryOut]
  rw [heq]

theorem Session.perform_overlooks (wrap : α → Reply) (plan : Plan α) {session after : Session} {fault : Fault}
    (h : (session.perform wrap plan).2.Relieved fault after) :
    ∃ before, session.Relieved fault before ∧
      before.perform wrap plan = ((session.perform wrap plan).1, after) := by
  obtain ⟨server, connection⟩ := session
  cases connection with
  | absent =>
    rcases hconnect : Session.connect ⟨server, .absent⟩ with ⟨outcome, connected⟩
    cases outcome with
    | error cause =>
      have hleft : (Session.connect ⟨server, .absent⟩).2.Relieved fault after := by
        rw [hconnect]
        simpa only [Session.perform, hconnect] using h
      obtain ⟨_, ⟨before, hbefore, rfl⟩, heq⟩ := Session.connect_overlooks hleft
      rw [hconnect] at heq
      exact ⟨_, ⟨before, hbefore, rfl⟩, by simp only [Session.perform, hconnect, heq]⟩
    | ok _ =>
      have hcarried : (connected.carryOut plan).2.Relieved fault after := by
        simpa only [Session.perform, hconnect] using h
      obtain ⟨middle, hmiddle, hcarry⟩ := Session.carryOut_overlooks plan hcarried
      have hleft : (Session.connect ⟨server, .absent⟩).2.Relieved fault middle := by rw [hconnect]; exact hmiddle
      obtain ⟨_, ⟨before, hbefore, rfl⟩, heq⟩ := Session.connect_overlooks hleft
      rw [hconnect] at heq
      exact ⟨_, ⟨before, hbefore, rfl⟩, by simp only [Session.perform, hconnect, heq, hcarry]⟩
  | live | lost =>
    obtain ⟨_, ⟨before, hbefore, rfl⟩, hcarry⟩ := Session.carryOut_overlooks plan h
    exact ⟨_, ⟨before, hbefore, rfl⟩, by simp only [Session.perform, hcarry]⟩

end

theorem Intervention.apply_overlooks {what : Intervention} {server after : Server} {fault : Fault}
    (h : (what.apply server).Relieved fault after) :
    (what = .prepareFault fault ∧ after = server) ∨
      ∃ before, server.Relieved fault before ∧ what.apply before = after := by
  obtain ⟨older, newer, hfaults, rfl⟩ := h
  cases what with
  | setClock | setVersions | setNextKey | dropTable =>
    exact .inr ⟨_, ⟨older, newer, hfaults, rfl⟩, rfl⟩
  | prepareFault prepared =>
    have hsplit : server.faults ++ [prepared] = older ++ fault :: newer := hfaults
    rcases List.eq_nil_or_concat newer with rfl | ⟨newer, last, rfl⟩
    · obtain ⟨hold, hlast⟩ := List.append_inj' hsplit rfl
      left
      constructor
      · rw [List.singleton_inj.mp hlast]
      · rw [List.append_nil, ← hold]
        rfl
    · right
      have hcat : older ++ fault :: newer.concat last = (older ++ fault :: newer) ++ [last] := by simp
      rw [hcat] at hsplit
      obtain ⟨hold, hlast⟩ := List.append_inj' hsplit rfl
      refine ⟨_, ⟨older, newer, hold, rfl⟩, ?_⟩
      simp [Intervention.apply, List.singleton_inj.mp hlast]

section
variable {session after : Session} {fault : Fault}

theorem Session.step_overlooks {step : Step} (h : (session.step step).2.Relieved fault after) :
    (step = .intervention (.prepareFault fault) ∧ after = session) ∨
      ∃ before, session.Relieved fault before ∧ before.step step = ((session.step step).1, after) := by
  cases step with
  | provision =>
    obtain ⟨_, hlast, rfl⟩ := h
    obtain ⟨before, hbefore, heq⟩ := Server.provision_overlooks hlast
    exact .inr ⟨_, ⟨before, hbefore, rfl⟩, by simp only [Session.step, heq]⟩
  | connect =>
    obtain ⟨before, hbefore, heq⟩ := Session.connect_overlooks h
    exact .inr ⟨before, hbefore, by simp only [Session.step, heq]⟩
  | operation call =>
    have hperform : (session.perform call.planned.wrap call.planned.plan).2.Relieved fault after := by
      rw [← session.operate_eq]
      exact h
    obtain ⟨before, hbefore, heq⟩ := Session.perform_overlooks _ _ hperform
    refine .inr ⟨before, hbefore, ?_⟩
    simp only [Session.step, Session.operate_eq, heq]
  | intervention what =>
    obtain ⟨_, hlast, rfl⟩ := h
    rcases Intervention.apply_overlooks hlast with ⟨rfl, rfl⟩ | ⟨before, hbefore, rfl⟩
    · exact .inl ⟨rfl, rfl⟩
    · exact .inr ⟨_, ⟨before, hbefore, rfl⟩, rfl⟩

/-- A fault that is pending after a run either was so before it, and then mattered to no step of it, or was prepared by
a step of it, and then mattered to no later one. -/
theorem Session.run_overlooks {steps : List Step} (h : (session.run steps).2.Relieved fault after) :
    (∃ before, session.Relieved fault before ∧ before.run steps = ((session.run steps).1, after)) ∨
      ∃ first second, steps = first ++ .intervention (.prepareFault fault) :: second ∧
        (session.run first).2.run second =
          (((session.run (first ++ [.intervention (.prepareFault fault)])).2.run second).1, after) := by
  induction steps generalizing session with
  | nil => exact .inl ⟨after, h, rfl⟩
  | cons step rest ih =>
    have hlater : ((session.step step).2.run rest).2.Relieved fault after := h
    rcases ih hlater with ⟨middle, hmiddle, hrest⟩ | ⟨first, second, rfl, hrest⟩
    · rcases Session.step_overlooks hmiddle with ⟨rfl, rfl⟩ | ⟨before, hbefore, hstep⟩
      · exact .inr ⟨[], rest, rfl, hrest⟩
      · exact .inl ⟨before, hbefore, by simp only [Session.run_cons, hstep, hrest]⟩
    · exact .inr ⟨step :: first, second, rfl, hrest⟩

end

end BridgeLedger
