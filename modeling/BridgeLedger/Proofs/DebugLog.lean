import BridgeLedger.Proofs.Planning
import BridgeLedger.Proofs.Runs

/-!
# What the log says for debugging

The lines for debugging are a record of the record calls. A call that records, one that repeats a move and one that is
rejected leave one line each, and everything else that happens leaves none (`Operation.trail`). The lines of the three
kinds open with different words, so that one can count them (`Session.log_audits_records`).
-/

namespace BridgeLedger

def Report.debugLines {α : Type} (report : Report α) : List LogLine :=
  report.log.filter fun line => line.level == .debug

/-! ## Calls -/

inductive Operation.Answers (call : Operation) : Except LedgerError Reply → Prop
  | found (reply : Reply) (keyed : call.isRecord = true → ∃ key, reply = .key key) :
      Operation.Answers call (.ok reply)
  | failed (cause : ServerError) : Operation.Answers call (.error (.server cause))
  | repeated {utxo recovery evm txid : String} (move : call = .recordMoveTx utxo recovery evm txid) :
      Operation.Answers call (.error (.alreadyRecorded (Hex.lowercase txid)))
  | rejected (cause : FieldError) (record : call.isRecord = true) : Operation.Answers call (.error (.invalid cause))

theorem Operation.Concludes.answers {α : Type} {call : Operation} {outcome : Except ServerError α}
    {answer : Except LedgerError α} {wrap : α → Reply} (h : call.Concludes outcome answer)
    (hkeyed : call.isRecord = true → ∀ found, ∃ key, wrap found = .key key) : call.Answers (answer.map wrap) := by
  cases h with
  | answered found => exact .found _ fun hrecord => hkeyed hrecord found
  | failed cause => exact .failed cause
  | repeated move => exact .repeated move

theorem Operation.trail_debug (call : Operation) (answer : Except LedgerError Reply) :
    (call.trail answer).filter (fun line => line.level == .debug) = call.trail answer := by
  unfold Operation.trail
  split <;> rfl

theorem Session.operate_logged (session : Session) (call : Operation) :
    call.Answers (session.operate call).1.answer ∧
      (session.operate call).1.debugLines = call.trail (session.operate call).1.answer := by
  have hplanning := call.planning
  rw [session.operate_eq]
  generalize call.planned = planned at hplanning ⊢
  cases hplanning with
  | @rejected wrap cause record first =>
    rcases session.perform_decided_report wrap (.error (.invalid cause)) (call.trail (.error (.invalid cause))) with
      hreport | ⟨failure, hreport⟩ <;> rw [hreport]
    · exact ⟨.rejected cause record, call.trail_debug _⟩
    · exact ⟨.failed failure, (call.trail_server failure).symm⟩
  | @nothing _ wrap found cause lookup first =>
    rcases session.perform_decided_report wrap (.ok found) [] with hreport | ⟨failure, hreport⟩ <;> rw [hreport]
    · refine ⟨.found _ fun hrecord => ?_, (Operation.trail_of_lookup lookup _).symm⟩
      cases lookup.symm.trans hrecord
    · exact ⟨.failed failure, (call.trail_server failure).symm⟩
  | @asks _ wrap query conclude _ _ _ keyed concludes logs =>
    have hlost : ∀ lost : Bool,
        (if lost then [connectionLost] else []).filter (fun line => line.level == .debug) = [] := by
      rintro (_ | _) <;> rfl
    have hcourse := session.perform_course wrap query conclude
    generalize (session.perform wrap (.ask query conclude)).1 = report at hcourse ⊢
    cases hcourse with
    | @offline cause _ => exact ⟨.failed cause, (call.trail_server cause).symm⟩
    | @unprepared cause lost _ _ => exact ⟨.failed cause, (hlost lost).trans (call.trail_server cause).symm⟩
    | @unexecuted cause lost _ _ _ =>
      refine ⟨(concludes _).answers keyed, ?_⟩
      simp only [Report.debugLines, List.filter_append, hlost, List.nil_append, logs, call.trail_debug]
    | executed _ _ _ =>
      refine ⟨(concludes _).answers keyed, ?_⟩
      simp only [Report.debugLines, logs, call.trail_debug]

/-! ## Steps -/

def Step.trail : Step → Except LedgerError Reply → List LogLine
  | .operation call, answer => call.trail answer
  | _, _ => []

theorem Server.provision_debugLines (server : Server) : server.provision.1.debugLines = [] := by
  unfold Server.provision
  split
  · rfl
  · simp only [Server.createTables, Report.debugLines]
    split <;> rfl

theorem Session.step_debugLines (session : Session) (step : Step) :
    (session.step step).1.debugLines = step.trail (session.step step).1.answer := by
  cases step with
  | provision => exact session.server.provision_debugLines
  | connect => rfl
  | operation call => exact (session.operate_logged call).2
  | intervention => rfl

inductive Verdict where
  | recorded | repeated | rejected
deriving DecidableEq

namespace Verdict

def word : Verdict → String
  | recorded => "Recorded"
  | repeated => "Refusing"
  | rejected => "Rejecting"

def opens (verdict : Verdict) (line : LogLine) : Bool := opensWith verdict.word line.message

def ofAnswer? : Except LedgerError Reply → Option Verdict
  | .ok _ => some recorded
  | .error (.alreadyRecorded _) => some repeated
  | .error (.invalid _) => some rejected
  | .error _ => none

end Verdict

/-- The verdict on the record, if the step is a record call and comes to one. -/
def Entry.verdict? (entry : Entry) : Option Verdict :=
  match entry.step with
  | .operation call => if call.isRecord then Verdict.ofAnswer? entry.answer else none
  | _ => none

/-- One line about the verdict, or none if there is no verdict. -/
def Tells (verdict? : Option Verdict) (lines : List LogLine) : Prop :=
  match verdict? with
  | none => lines = []
  | some verdict => ∃ line, lines = [line] ∧ verdict.opens line = true

theorem Operation.Answers.tells {call : Operation} {answer : Except LedgerError Reply} (h : call.Answers answer)
    (hrecord : call.isRecord = true) : Tells (Verdict.ofAnswer? answer) (call.trail answer) := by
  cases h with
  | found reply keyed =>
    obtain ⟨key, rfl⟩ := keyed hrecord
    cases call with
    | recordDepositRequest | recordMoveTx | recordWithdrawalSig =>
      refine ⟨_, rfl, ?_⟩
      simp only [String.append_assoc]
      exact opensWith_append (by decide) _
    | _ => cases hrecord
  | failed cause => exact call.trail_server cause
  | repeated move =>
    subst move
    refine ⟨_, rfl, ?_⟩
    simp only [String.append_assoc]
    exact opensWith_append (by decide) _
  | rejected cause =>
    cases call with
    | recordDepositRequest | recordMoveTx | recordWithdrawalSig => exact ⟨_, rfl, opensWith_append (by decide) _⟩
    | _ => cases hrecord

theorem Verdict.opens_unique {line : LogLine} {v w : Verdict} (hv : v.opens line = true)
    (hw : w.opens line = true) : v = w := by
  rw [Verdict.opens, opensWith, List.isPrefixOf_iff_prefix] at hv hw
  -- of two words that the line opens with, one opens with the other
  have hwords := List.prefix_or_prefix_of_prefix hv hw
  simp only [← List.isPrefixOf_iff_prefix] at hwords
  revert hwords
  cases v <;> cases w <;> decide

theorem Tells.countP {verdict? : Option Verdict} {lines : List LogLine} (h : Tells verdict? lines) (verdict : Verdict) :
    lines.countP verdict.opens = if verdict? == some verdict then 1 else 0 := by
  cases verdict? with
  | none =>
    obtain rfl : lines = [] := h
    rfl
  | some here =>
    obtain ⟨line, rfl, hopens⟩ := h
    rw [List.countP_singleton]
    by_cases hsame : here = verdict
    · subst hsame
      simp [hopens]
    · have hother : ¬ verdict.opens line = true := fun hverdict => hsame (Verdict.opens_unique hopens hverdict)
      simp [hsame, hother]

/-! ## Runs -/

def Entry.trail (entry : Entry) : List LogLine := entry.step.trail entry.answer

theorem Session.entry_tells (session : Session) (step : Step) :
    Tells (session.entry step).verdict? (session.entry step).trail := by
  cases step with
  | provision | connect | intervention => exact rfl
  | operation call =>
    show Tells (if call.isRecord then _ else none) (call.trail (session.operate call).1.answer)
    cases hrecord : call.isRecord with
    | false => exact Operation.trail_of_lookup hrecord _
    | true => exact (session.operate_logged call).1.tells hrecord

theorem Session.history_tells (session : Session) (steps : List Step) :
    ∀ entry ∈ session.history steps, Tells entry.verdict? entry.trail := by
  induction steps generalizing session with
  | nil => exact fun _ hmem => nomatch hmem
  | cons step rest ih => exact List.forall_mem_cons.mpr ⟨session.entry_tells step, ih _⟩

theorem Session.run_debugLines (session : Session) (steps : List Step) :
    (session.run steps).1.map Report.debugLines = (session.history steps).map Entry.trail := by
  induction steps generalizing session with
  | nil => rfl
  | cons step rest ih =>
    rw [Session.run_cons, Session.history_cons, List.map_cons, List.map_cons, ih, session.step_debugLines]
    rfl

theorem countP_trails {history : List Entry} (h : ∀ entry ∈ history, Tells entry.verdict? entry.trail)
    (verdict : Verdict) :
    (history.flatMap Entry.trail).countP verdict.opens =
      history.countP fun entry => entry.verdict? == some verdict := by
  induction history with
  | nil => rfl
  | cons entry rest ih =>
    obtain ⟨hentry, hrest⟩ := List.forall_mem_cons.mp h
    rw [List.flatMap_cons, List.countP_append, hentry.countP, ih hrest, List.countP_cons, Nat.add_comm]

/-- The lines for debugging that a run leaves are the trails of its steps: one line for each record call that records,
repeats or is rejected, and none for anything else. So counting the lines by their first words counts the answers. -/
theorem Session.log_audits_records (start : Session) (steps : List Step) :
    (start.run steps).1.map Report.debugLines = (start.history steps).map Entry.trail ∧
      (∀ entry ∈ start.history steps, Tells entry.verdict? entry.trail) ∧
      ∀ verdict : Verdict,
        ((start.run steps).1.flatMap Report.debugLines).countP verdict.opens =
          (start.history steps).countP fun entry => entry.verdict? == some verdict := by
  refine ⟨start.run_debugLines steps, start.history_tells steps, fun verdict => ?_⟩
  rw [List.flatMap_def, start.run_debugLines, ← List.flatMap_def]
  exact countP_trails (start.history_tells steps) verdict

def auditedRun : List Step :=
  [.provision,
    .operation (.recordMoveTx "utxo" "recovery" (String.ofList (List.replicate 40 'e'))
      (String.ofList (List.replicate 64 'A'))),
    .intervention (.prepareFault { kind := .execute, code := some .uniqueViolation }),
    .operation (.recordMoveTx "utxo" "recovery" (String.ofList (List.replicate 40 'e'))
      (String.ofList (List.replicate 64 'B'))),
    .operation (.recordMoveTx "utxo" "recovery" (String.ofList (List.replicate 40 'e')) "odd"),
    .operation (.moveTxWithTxid "odd")]

theorem auditedRun_counted : ∀ verdict : Verdict,
    ((Session.run {} auditedRun).1.flatMap Report.debugLines).countP verdict.opens = 1 := by
  have hverdicts : (Session.history {} auditedRun).map Entry.verdict? =
      [none, some .recorded, none, some .repeated, some .rejected, none] := by decide +kernel
  obtain ⟨_, _, hcounts⟩ := Session.log_audits_records {} auditedRun
  intro verdict
  rw [hcounts]
  change ((Session.history {} auditedRun).countP ((· == some verdict) ∘ Entry.verdict?)) = 1
  rw [← List.countP_map, hverdicts]
  cases verdict <;> rfl

end BridgeLedger
