import BridgeLedger.Proofs.Omission
import BridgeLedger.Proofs.PendingFaults

/-!
# Losing the connection

A call during which the server closes the connection met one pending fault, which is spent, and changed nothing else
(`Session.Loses.struck`). Until the user connects anew, calls answer what their arguments decide or that the connection
is closed, and do nothing (`Session.operate_lost`). So the fault, the call and all those calls may be left out of the
run: no other step can tell, and the end is the same (`Session.lost_connection_leaves_no_trace`).
-/

namespace BridgeLedger

def Session.Loses (session : Session) (call : Operation) : Prop :=
  session.connection ≠ .lost ∧ (session.operate call).2.connection = .lost

/-! ## What arguments decide -/

def settledBy {α : Type} (check : Except FieldError α) (answer : FieldError → Except LedgerError Reply) :
    Option (Except LedgerError Reply) :=
  match check with
  | .error cause => some (answer cause)
  | .ok _ => none

/-- What the arguments alone decide: that a record is invalid, or that there is nothing to find. -/
def Operation.settled? : Operation → Option (Except LedgerError Reply)
  | .recordDepositRequest utxo recovery evm =>
    settledBy (Plan.checkDeposit utxo recovery evm) fun cause => .error (.invalid cause)
  | .recordMoveTx utxo recovery evm txid =>
    settledBy (Plan.checkMove utxo recovery evm txid) fun cause => .error (.invalid cause)
  | .recordWithdrawalSig txid sig => settledBy (Plan.checkWithdrawal txid sig) fun cause => .error (.invalid cause)
  | .depositRequestsFor evm => settledBy (checkEvmAddress evm) fun _ => .ok (.depositRequests [])
  | .depositRequestsSpending utxo => settledBy (checkText "start_utxo" utxo) fun _ => .ok (.depositRequests [])
  | .moveTxWithTxid txid => settledBy (checkTxid "move_txid" txid) fun _ => .ok (.moveTx none)
  | .moveTxsFor evm => settledBy (checkEvmAddress evm) fun _ => .ok (.moveTxs [])
  | .moveTxsSpending utxo => settledBy (checkText "start_utxo" utxo) fun _ => .ok (.moveTxs [])
  | .withdrawalSigsFor txid => settledBy (checkTxid "bridge_fund_txid" txid) fun _ => .ok (.withdrawalSigs [])
  | .depositRequest _ | .moveTx _ | .withdrawalSig _ | .counts => none

/-- The plan has settled on that answer, or else asks, and passes the loss of the connection on as what it is. -/
def Plan.Settles {α : Type} (wrap : α → Reply) (settled? : Option (Except LedgerError Reply)) : Plan α → Prop
  | .decided answer _ => settled? = some (answer.map wrap)
  | .ask _ conclude => settled? = none ∧ (conclude (.error .closed)).1 = .error (.server .closed)

theorem Plan.lookupChecked_settles {α κ : Type} (wrap : α → Reply) (key : Except FieldError κ) (nothing : α)
    (query : κ → Query α) :
    (Plan.lookupChecked key nothing query).Settles wrap (settledBy key fun _ => .ok (wrap nothing)) := by
  cases key with
  | error cause => rfl
  | ok key => exact ⟨rfl, rfl⟩

theorem Operation.settles (call : Operation) : call.planned.plan.Settles call.planned.wrap call.settled? := by
  cases call with
  | recordDepositRequest utxo recovery evm =>
    simp only [Operation.planned, Plan.recordDepositRequest, Operation.settled?]
    cases Plan.checkDeposit utxo recovery evm with
    | error cause => rfl
    | ok normal => exact ⟨rfl, rfl⟩
  | recordMoveTx utxo recovery evm txid =>
    simp only [Operation.planned, Plan.recordMoveTx, Operation.settled?]
    cases Plan.checkMove utxo recovery evm txid with
    | error cause => rfl
    | ok normal => exact ⟨rfl, rfl⟩
  | recordWithdrawalSig txid sig =>
    simp only [Operation.planned, Plan.recordWithdrawalSig, Operation.settled?]
    cases Plan.checkWithdrawal txid sig with
    | error cause => rfl
    | ok normal => exact ⟨rfl, rfl⟩
  | depositRequest | moveTx | withdrawalSig | counts => exact ⟨rfl, rfl⟩
  | depositRequestsFor | depositRequestsSpending | moveTxWithTxid | moveTxsFor | moveTxsSpending
  | withdrawalSigsFor => exact Plan.lookupChecked_settles _ _ _ _

/-! ## After the loss -/

theorem Session.operate_lost {session : Session} (h : session.connection = .lost) (call : Operation) :
    (session.operate call).1.answer = call.settled?.getD (.error (.server .closed)) ∧
      (session.operate call).1.sent = [] ∧ (session.operate call).2 = session := by
  have hsettles := call.settles
  rw [session.operate_eq]
  obtain ⟨server, connection⟩ := session
  cases h
  generalize call.planned.wrap = wrap, call.planned.plan = plan at hsettles ⊢
  cases plan with
  | decided answer log =>
    rw [show call.settled? = some (answer.map wrap) from hsettles]
    exact ⟨rfl, rfl, rfl⟩
  | ask query conclude =>
    rw [hsettles.1]
    exact ⟨rfl, rfl, rfl⟩

/-! ## The loss -/

/-- A fault without a code has struck, at the preparation or the execution of a query. -/
def Server.CutOff (server after : Server) : Prop :=
  ∃ fault, fault.code = none ∧ (fault.kind = .prepare ∨ fault.kind = .execute) ∧ server.Relieved fault after

section
variable {line after : Line} {outcome : Except ServerError Unit}

theorem Line.deliver_closed {message : Sent} (hopen : line.isOpen = true)
    (hdeliver : line.deliver message = (outcome, after)) (hclosed : after.isOpen = false) :
    outcome = .error .closed ∧ ∃ fault, fault.code = none ∧ fault.kind = message.kind ∧
      line.server.Relieved fault after.server := by
  rcases hs : line.server.strike message.kind message.text with ⟨struck, left⟩
  simp only [Line.deliver, hopen, ite_true, hs] at hdeliver
  cases struck with
  | none =>
    obtain ⟨rfl, rfl⟩ := Prod.mk.inj hdeliver
    cases hclosed
  | some fault =>
    obtain ⟨rfl, rfl⟩ := Prod.mk.inj hdeliver
    have hcode : fault.code = none := by simpa using hclosed
    have hstruck : (line.server.strike message.kind message.text).1 = some fault := by rw [hs]
    obtain ⟨hkind, hrelieved⟩ := Server.Relieved.of_strike hstruck
    rw [hs] at hrelieved
    exact ⟨by simp only [Fault.error, hcode], fault, hcode, hkind, hrelieved⟩

theorem Plan.askOver_closed {α : Type} {query : Query α}
    {conclude : Except ServerError α → Except LedgerError α × List LogLine}
    (hconclude : (conclude (.error .closed)).1 = .error (.server .closed)) (hopen : line.isOpen = true)
    (hclosed : (Plan.askOver query conclude line).2.2.isOpen = false) :
    (Plan.askOver query conclude line).1 = .error (.server .closed) ∧
      line.server.CutOff (Plan.askOver query conclude line).2.2.server := by
  have hasked : Plan.Asked query conclude _ _ := Plan.askOver_asked conclude line
  generalize Plan.askOver query conclude line = asked at hasked hclosed ⊢
  cases hasked with
  | unprepared failed =>
    obtain ⟨hcause, fault, hcode, hkind, hrelieved⟩ := Line.deliver_closed hopen failed hclosed
    rw [Except.error.inj hcause]
    exact ⟨rfl, fault, hcode, .inl hkind, hrelieved⟩
  | unknown delivered _ => cases hclosed.symm.trans (Line.open_of_delivered delivered)
  | unexecuted delivered _ failed =>
    obtain ⟨hcause, fault, hcode, hkind, hrelieved⟩ :=
      Line.deliver_closed (Line.open_of_delivered delivered) failed hclosed
    obtain ⟨_, rfl⟩ := Line.deliver_ok delivered
    rw [Except.error.inj hcause]
    exact ⟨hconclude, fault, hcode, .inr hkind, hrelieved⟩
  | executed _ _ passed =>
    have hstill := Line.open_of_delivered passed
    cases hclosed.symm.trans hstill

end

theorem Session.Loses.struck {session : Session} {call : Operation} (h : session.Loses call) :
    (session.operate call).1.answer = .error (.server .closed) ∧
      session.server.CutOff (session.operate call).2.server := by
  obtain ⟨hopen, hlost⟩ := h
  have hsettles := call.settles
  rw [session.operate_eq] at hlost ⊢
  generalize call.planned.wrap = wrap, call.planned.plan = plan at hsettles hlost ⊢
  rcases session.perform_cases wrap plan with ⟨isOpen, hiff, _, hreport, hafter⟩ | ⟨_, _, _, _, _, _, habsent⟩
  · cases hiff.mpr hopen
    rw [hafter] at hlost
    rw [hreport, hafter]
    cases plan with
    | decided answer log => cases hlost
    | ask query conclude =>
      have hclosed : (Plan.askOver query conclude { server := session.server }).2.2.isOpen = false := by
        cases hstill : (Plan.askOver query conclude { server := session.server }).2.2.isOpen with
        | false => rfl
        | true =>
          have hopen' : ((Plan.ask query conclude).carryOut { server := session.server }).2.isOpen = true := hstill
          rw [hopen'] at hlost
          cases hlost
      obtain ⟨hanswer, hcut⟩ := Plan.askOver_closed hsettles.2 rfl hclosed
      exact ⟨congrArg (Except.map wrap) hanswer, hcut⟩
  · rw [habsent] at hlost
    cases hlost

/-! ## Until the next connection -/

def Step.isOperation : Step → Bool
  | .operation _ => true
  | _ => false

theorem Session.step_lost {session : Session} (h : session.connection = .lost) {step : Step} (hne : step ≠ .connect) :
    (session.step step).2.connection = .lost := by
  cases step with
  | provision | intervention => exact h
  | connect => exact absurd rfl hne
  | operation call =>
    show (session.operate call).2.connection = .lost
    rw [(Session.operate_lost h call).2.2]
    exact h

theorem Session.run_lost {session : Session} (h : session.connection = .lost) {steps : List Step}
    (hconnect : .connect ∉ steps) : (session.run steps).2.connection = .lost := by
  refine Session.run_induction (P := fun _ here => here.connection = .lost) steps h ?_
  intro past here step hmem hp
  apply Session.step_lost hp
  rintro rfl
  exact hconnect hmem

theorem Session.parallel_of_lost {session other : Session} (hlost : session.connection = .lost)
    (hserver : session.server = other.server) {between : List Step} (hconnect : .connect ∉ between) :
    ∃ last last', (MarkedRun.without Step.isOperation between).Parallel session other last last' ∧
      last.server = last'.server := by
  have hunwind := Session.unwinding (fun s t => s.connection = .lost ∧ s.server = t.server)
    (MarkedRun.without Step.isOperation between) ?_ ?_ ⟨hlost, hserver⟩
  · obtain ⟨last, last', hparallel, _, hend⟩ := hunwind
    exact ⟨last, last', hparallel, hend⟩
  · intro step s t hmem ⟨hs, hst⟩
    obtain ⟨hbetween, hkept⟩ := MarkedRun.mem_without hmem
    obtain ⟨server, connection⟩ := s
    obtain ⟨_, connection'⟩ := t
    cases hst
    cases step with
    | provision | intervention => exact ⟨rfl, hs, rfl⟩
    | connect => exact absurd hbetween hconnect
    | operation call => cases hkept
  · intro step s t hmem ⟨hs, hst⟩
    obtain ⟨_, hleft⟩ := MarkedRun.mem_without hmem
    cases step with
    | provision | connect | intervention => cases hleft
    | operation call =>
      have hsame : (s.step (.operation call)).2 = s := (Session.operate_lost hs call).2.2
      rw [hsame]
      exact ⟨hs, hst⟩

theorem Session.parallel_of_connect {session other : Session} (hserver : session.server = other.server)
    (after : List Step) :
    ∃ last, (MarkedRun.keep (.connect :: after)).Parallel session other last last := by
  have hstep : session.step .connect = other.step .connect := by
    simp only [Session.step, Session.connect, hserver]
  refine ⟨_, .keep (.connect :: after) (Session.run_cons ..) ?_⟩
  rw [Session.run_cons, hstep]

/-! ## Leaving it all out -/

section
variable (first second between after : List Step) (fault : Fault) (call : Operation)

/-- The run without the fault that cuts the connection, the call during which it does, and the calls until the next
connection. -/
def lossRun : MarkedRun :=
  MarkedRun.keep first ++ [(.intervention (.prepareFault fault), false)] ++ MarkedRun.keep second ++
    [(.operation call, false)] ++ MarkedRun.without Step.isOperation between ++ MarkedRun.keep (.connect :: after)

theorem lossRun_whole :
    (lossRun first second between after fault call).whole =
      first ++ .intervention (.prepareFault fault) :: second ++ .operation call :: between ++ .connect :: after := by
  simp [lossRun]

end

theorem Session.parallel_of_loss {start here lost relieved : Session} {first second between : List Step}
    {fault : Fault} {call : Operation}
    (hhere : (start.run (first ++ .intervention (.prepareFault fault) :: second)).2 = here)
    (hcall : (here.operate call).2 = lost) (hlost : lost.connection = .lost)
    (hrun : (start.run first).2.run second =
      (((start.run (first ++ [.intervention (.prepareFault fault)])).2.run second).1, relieved))
    (hserver : lost.server = relieved.server) (hconnect : .connect ∉ between) (after : List Step) :
    ∃ last, (lossRun first second between after fault call).Parallel start start last last := by
  let fore := (start.run first).2
  let prepared := (fore.step (.intervention (.prepareFault fault))).2
  have hprepared : (start.run (first ++ [.intervention (.prepareFault fault)])).2 = prepared :=
    Session.run_append start first _
  have hreached : (prepared.run second).2 = here := by
    rw [← hhere]
    exact (Session.run_append start first (.intervention (.prepareFault fault) :: second)).symm
  rw [hprepared] at hrun
  -- part by part, the run with the loss beside the run without it
  have hfirst : (MarkedRun.keep first).Parallel start start fore fore := .keep first rfl rfl
  have hfault : MarkedRun.Parallel [(.intervention (.prepareFault fault), false)] fore fore prepared fore := .omit ..
  have hsecond : (MarkedRun.keep second).Parallel prepared fore here relieved :=
    .keep second (Prod.ext rfl hreached) hrun
  have hcut : MarkedRun.Parallel [(.operation call, false)] here relieved lost relieved := by
    rw [← hcall]
    exact .omit ..
  obtain ⟨_, _, hbetween, hservers⟩ := Session.parallel_of_lost hlost hserver hconnect
  obtain ⟨last, hafter⟩ := Session.parallel_of_connect hservers after
  exact ⟨last, ((((hfirst.append hfault).append hsecond).append hcut).append hbetween).append hafter⟩

/-- A call during which the connection is lost says so and changes nothing. The calls until the next connection answer
what their arguments settle, or that the connection is closed, and do nothing at all. Without the fault, that call and
those calls, every other step of the run would have reported the same, and the run would have ended the same. -/
theorem Session.lost_connection_leaves_no_trace {start : Session} (hfresh : start.server.faults = [])
    {before between : List Step} {call : Operation} (hloses : (start.run before).2.Loses call)
    (hconnect : .connect ∉ between) (after : List Step) :
    let here := (start.run before).2
    let lost := (here.operate call).2
    ((here.operate call).1.answer = .error (.server .closed) ∧ ServerError.closed.code? = none ∧
        lost.server.database = here.server.database) ∧
      (∀ past other rest, between = past ++ .operation other :: rest →
        let closed := (lost.run past).2
        (closed.operate other).1.answer = other.settled?.getD (.error (.server .closed)) ∧
          (closed.operate other).1.sent = [] ∧ (closed.operate other).2 = closed) ∧
      ∃ first fault second, before = first ++ .intervention (.prepareFault fault) :: second ∧
        (fault.code = none ∧ (fault.kind = .prepare ∨ fault.kind = .execute) ∧
          here.server.Relieved fault lost.server) ∧
        let marked := lossRun first second between after fault call
        marked.whole = before ++ .operation call :: between ++ .connect :: after ∧ start.SameReports start marked ∧
          (start.run marked.whole).2 = (start.run marked.shortened).2 := by
  intro here lost
  obtain ⟨hanswer, fault, hcode, hkind, hrelieved⟩ := hloses.struck
  have hlost : lost.connection = .lost := hloses.2
  refine ⟨⟨hanswer, rfl, ?_⟩, ?_, ?_⟩
  · obtain ⟨_, _, _, hserver⟩ := hrelieved
    show (here.operate call).2.server.database = here.server.database
    rw [hserver]
  · intro past other rest hbetween closed
    have hpast : .connect ∉ past := by
      intro hmem
      apply hconnect
      rw [hbetween]
      exact List.mem_append_left _ hmem
    exact Session.operate_lost (Session.run_lost hlost hpast) other
  · have hpending : here.Relieved fault { here with server := lost.server } := ⟨_, hrelieved, rfl⟩
    rcases Session.run_overlooks hpending with ⟨_, ⟨_, ⟨older, newer, hfaults, _⟩, _⟩, _⟩ | ⟨first, second, rfl, hrun⟩
    · -- no fault was pending at the start
      rw [hfresh] at hfaults
      cases older <;> cases hfaults
    · obtain ⟨last, hall⟩ := Session.parallel_of_loss rfl rfl hlost hrun rfl hconnect after
      exact ⟨first, fault, second, rfl, ⟨hcode, hkind, hrelieved⟩, lossRun_whole .., hall.reports,
        hall.whole.trans hall.shortened.symm⟩

def signatureCall (digit : Char) : Operation :=
  .recordWithdrawalSig (String.ofList (List.replicate 64 'a')) (String.ofList (List.replicate 128 digit))

def severedRun : List Step :=
  [.provision, .intervention (.prepareFault { kind := .execute, pattern := "sigs" })]

def severedTime : List Step :=
  [.operation (signatureCall '2'), .intervention (.setClock ⟨7⟩), .operation (.withdrawalSigsFor "none"), .provision,
    .operation .counts]

theorem severedRun_leaves_no_trace :
    (Session.run {} severedRun).2.Loses (signatureCall '1') ∧ .connect ∉ severedTime ∧
      ((Session.run {} severedRun).2.operate (signatureCall '1')).1.answer = .error (.server .closed) ∧
      ∃ marked : MarkedRun,
        marked.whole = severedRun ++ .operation (signatureCall '1') :: severedTime ++ [.connect, .operation .counts] ∧
          Session.SameReports {} {} marked ∧
          (Session.run {} marked.whole).2 = (Session.run {} marked.shortened).2 := by
  have hloses : (Session.run {} severedRun).2.Loses (signatureCall '1') := by
    unfold Session.Loses
    decide +kernel
  have hconnect : .connect ∉ severedTime := by decide +kernel
  obtain ⟨⟨hanswer, _⟩, _, first, fault, second, _, _, hwhole, hreports, hend⟩ :=
    Session.lost_connection_leaves_no_trace rfl hloses hconnect [.operation .counts]
  exact ⟨hloses, hconnect, hanswer, _, hwhole, hreports, hend⟩

end BridgeLedger
