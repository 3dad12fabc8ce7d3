import BridgeLedger.Proofs.Planning

/-!
# Rejected records

Where a call is given a connection, open or not, its arguments are checked before anything else happens. A record call
is rejected exactly if one of its fields is refused, for the cause of the first, and whatever the server holds
(`Session.operate_rejection`). It leaves no trace but its report, so that it may stand anywhere in a run.
-/

namespace BridgeLedger

def Operation.rejection (call : Operation) (cause : FieldError) : Report Reply where
  answer := .error (.invalid cause)
  log := call.trail (.error (.invalid cause))

theorem Operation.Concludes.ne_invalid {α : Type} {call : Operation} {outcome : Except ServerError α}
    {answer : Except LedgerError α} (h : call.Concludes outcome answer) (wrap : α → Reply) (cause : FieldError) :
    answer.map wrap ≠ .error (.invalid cause) := by
  cases h <;> intro hinvalid <;> cases hinvalid

theorem Session.perform_decided_of_present {α : Type} {session : Session} (hpresent : session.connection ≠ .absent)
    (wrap : α → Reply) (answer : Except LedgerError α) (log : List LogLine) :
    session.perform wrap (.decided answer log) = ({ answer := answer.map wrap, log }, session) := by
  obtain ⟨server, connection⟩ := session
  cases connection with
  | absent => exact absurd rfl hpresent
  | live | lost => rfl

section
variable {call : Operation} (hrecord : call.isRecord = true) {cause : FieldError}
include hrecord

theorem Session.operate_rejection {session : Session} (hpresent : session.connection ≠ .absent)
    (hfirst : FirstRefusal call.fields cause) : session.operate call = (call.rejection cause, session) := by
  have hplanning := call.planning
  rw [session.operate_eq]
  generalize call.planned = planned at hplanning ⊢
  cases hplanning with
  | rejected _ first =>
    rw [Session.perform_decided_of_present hpresent, hfirst.unique first]
    rfl
  | nothing lookup => cases hrecord.symm.trans lookup
  | asks passes => exact absurd hfirst (passes cause)

theorem Session.operate_invalid {session : Session} (h : (session.operate call).1.answer = .error (.invalid cause)) :
    FirstRefusal call.fields cause := by
  have hplanning := call.planning
  rw [session.operate_eq] at h
  generalize call.planned = planned at hplanning h
  cases hplanning with
  | @rejected wrap other _ first =>
    obtain ⟨_, hanswer | ⟨failure, _, hanswer⟩⟩ := session.perform_decided wrap (.error (.invalid other))
      (call.trail (.error (.invalid other)))
    · cases hanswer.symm.trans h
      exact first
    · cases hanswer.symm.trans h
  | nothing lookup => cases hrecord.symm.trans lookup
  | @asks _ wrap query conclude _ _ _ _ concludes _ =>
    have hcourse := session.perform_course wrap query conclude
    generalize (session.perform wrap (.ask query conclude)).1 = report at hcourse h
    cases hcourse with
    | offline | unprepared => cases h
    | unexecuted | executed => exact absurd h ((concludes _).ne_invalid wrap cause)

end

theorem Session.run_rejection {call : Operation} (hrecord : call.isRecord = true) {cause : FieldError}
    (hfirst : FirstRefusal call.fields cause) {start : Session} {before : List Step}
    (hpresent : (start.run before).2.connection ≠ .absent) (after : List Step) :
    start.run (before ++ .operation call :: after) =
      ((start.run before).1 ++ call.rejection cause :: ((start.run before).2.run after).1,
        ((start.run before).2.run after).2) := by
  have hstep : (start.run before).2.step (.operation call) = (call.rejection cause, (start.run before).2) :=
    Session.operate_rejection hrecord hpresent hfirst
  refine Prod.ext ?_ ?_
  · rw [Session.run_append_reports, Session.run_cons, hstep]
  · rw [Session.run_append, Session.run_cons, hstep]

/-- Whether a record call over a given connection is rejected, and for what, depends on its arguments alone: it is so if
one of the fields is refused, and for the cause of the first. Then nothing is sent and nothing changes, and the rest of
a run with the call in it is the run without it. -/
theorem Session.rejected_by_arguments {call : Operation} (hrecord : call.isRecord = true) :
    (∀ first second : Session, first.connection ≠ .absent → second.connection ≠ .absent → ∀ cause,
        ((first.operate call).1.answer = .error (.invalid cause) ↔
          (second.operate call).1.answer = .error (.invalid cause)) ∧
        ((first.operate call).1.answer = .error (.invalid cause) ↔ FirstRefusal call.fields cause)) ∧
      ((∃ cause, FirstRefusal call.fields cause) ↔ ∃ field ∈ call.fields, ∃ cause, field.1.Refuses field.2 cause) ∧
      (∀ field ∈ call.fields, field.1.check = .notEmpty →
        ((∃ cause, field.1.Refuses field.2 cause) ↔ field.2 = "" ∨ '\x00' ∈ field.2.toList)) ∧
      (∀ session : Session, session.connection ≠ .absent → ∀ cause, FirstRefusal call.fields cause →
        (session.operate call).1.answer = .error (.invalid cause) ∧ (session.operate call).1.sent = [] ∧
          (session.operate call).2 = session) ∧
      ∀ (start : Session) (before after : List Step), (start.run before).2.connection ≠ .absent → ∀ cause,
        FirstRefusal call.fields cause → start.run (before ++ .operation call :: after) =
          ((start.run before).1 ++ call.rejection cause :: ((start.run before).2.run after).1,
            ((start.run before).2.run after).2) := by
  have hanswer : ∀ session : Session, session.connection ≠ .absent → ∀ cause,
      (session.operate call).1.answer = .error (.invalid cause) ↔ FirstRefusal call.fields cause := by
    intro session hpresent cause
    refine ⟨Session.operate_invalid hrecord, fun hfirst => ?_⟩
    rw [Session.operate_rejection hrecord hpresent hfirst]
    rfl
  refine ⟨?_, exists_firstRefusal, fun _ _ htext => Column.exists_refuses_text htext, ?_, ?_⟩
  · intro first second hfirst hsecond cause
    exact ⟨(hanswer first hfirst cause).trans (hanswer second hsecond cause).symm, hanswer first hfirst cause⟩
  · intro session hpresent cause hfirst
    rw [Session.operate_rejection hrecord hpresent hfirst]
    exact ⟨rfl, rfl, rfl⟩
  · intro start before after hpresent cause hfirst
    exact Session.run_rejection hrecord hfirst hpresent after

def hopelessMove : Operation := .recordMoveTx "u\x00" "" "0x" ""

theorem hopelessMove_rejected :
    hopelessMove.isRecord = true ∧
      ((Session.mk {} .lost).operate hopelessMove).1.answer =
        .error (.invalid (.nulCharacter "start_utxo" 1)) ∧
      ((Session.mk { faults := [{ kind := .prepare }] } .live).operate hopelessMove).1.answer =
        .error (.invalid (.nulCharacter "start_utxo" 1)) ∧
      ((Session.mk { faults := [{ kind := .prepare }] } .live).operate hopelessMove).2 =
        Session.mk { faults := [{ kind := .prepare }] } .live := by
  have hfirst : FirstRefusal hopelessMove.fields (.nulCharacter "start_utxo" 1) := by
    refine .here (.nulCharacter rfl (by decide +kernel) fun i hi => ?_)
    obtain rfl : i = 0 := by omega
    decide +kernel
  obtain ⟨halone, _, _, hkept, _⟩ := @Session.rejected_by_arguments hopelessMove rfl
  obtain ⟨hlost, _, hsame⟩ := hkept ⟨{ faults := [{ kind := .prepare }] }, .live⟩ (by decide) _ hfirst
  exact ⟨rfl, ((halone ⟨{}, .lost⟩ _ (by decide) (by decide) _).1.mpr hlost), hlost, hsame⟩

end BridgeLedger
