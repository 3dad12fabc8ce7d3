import BridgeLedger.Proofs.Effects

/-!
# Runs and their histories

The history of a run lists its steps with what they answered (`Session.history_answers`), and notes of each whether a
query of the user reached the execution. What holds at the start of a run, of no history, and is kept by every step
together with the entry that the step adds, holds at the end of the run and of its whole history
(`Session.run_induction`).
-/

namespace BridgeLedger

/-- A step that was taken, its answer, and whether it was a call whose query reached the execution. -/
structure Entry where
  step : Step
  answer : Except LedgerError Reply
  executed : Bool

def Session.entry (session : Session) (step : Step) : Entry where
  step
  answer := (session.step step).1.answer
  executed :=
    match step with
    | .operation call => session.executes call
    | _ => false

def Session.history (session : Session) : List Step → List Entry
  | [] => []
  | step :: rest => session.entry step :: (session.step step).2.history rest

@[simp] theorem Session.run_nil (session : Session) : session.run [] = ([], session) := rfl

@[simp] theorem Session.run_cons (session : Session) (step : Step) (rest : List Step) :
    session.run (step :: rest) =
      ((session.step step).1 :: ((session.step step).2.run rest).1, ((session.step step).2.run rest).2) := rfl

@[simp] theorem Session.history_nil (session : Session) : session.history [] = [] := rfl

@[simp] theorem Session.history_cons (session : Session) (step : Step) (rest : List Step) :
    session.history (step :: rest) = session.entry step :: (session.step step).2.history rest := rfl

theorem Session.run_append (session : Session) (first second : List Step) :
    (session.run (first ++ second)).2 = ((session.run first).2.run second).2 := by
  induction first generalizing session with
  | nil => rfl
  | cons step rest ih => exact ih _

theorem Session.run_append_reports (session : Session) (first second : List Step) :
    (session.run (first ++ second)).1 = (session.run first).1 ++ ((session.run first).2.run second).1 := by
  induction first generalizing session with
  | nil => rfl
  | cons step rest ih => simp only [List.cons_append, Session.run_cons, ih]

theorem Session.history_answers (session : Session) (steps : List Step) :
    (session.history steps).map Entry.answer = (session.run steps).1.map Report.answer := by
  induction steps generalizing session with
  | nil => rfl
  | cons step rest ih => simp only [Session.history_cons, List.map_cons, ih, Session.run_cons, Session.entry]

theorem Session.history_steps (session : Session) (steps : List Step) :
    (session.history steps).map Entry.step = steps := by
  induction steps generalizing session with
  | nil => rfl
  | cons step rest ih => simp only [Session.history_cons, List.map_cons, ih, Session.entry]

theorem Session.history_take (session : Session) (steps : List Step) (n : Nat) :
    (session.history steps).take n = session.history (steps.take n) := by
  induction steps generalizing session n with
  | nil => simp
  | cons step rest ih =>
    cases n with
    | zero => rfl
    | succ n => simp only [Session.history_cons, List.take_succ_cons, ih]

theorem Session.history_split {session : Session} {steps : List Step} {past rest : List Entry} {entry : Entry}
    (h : session.history steps = past ++ entry :: rest) :
    ∃ before step after, steps = before ++ step :: after ∧ past = session.history before ∧
      entry = (session.run before).2.entry step := by
  induction past generalizing session steps with
  | nil =>
    cases steps with
    | nil => cases h
    | cons step after => exact ⟨[], step, after, rfl, rfl, (List.cons.inj h).1.symm⟩
  | cons first past ih =>
    cases steps with
    | nil => cases h
    | cons start steps =>
      obtain ⟨rfl, hrest⟩ := List.cons.inj h
      obtain ⟨before, step, after, rfl, rfl, rfl⟩ := ih hrest
      exact ⟨start :: before, step, after, rfl, rfl, rfl⟩

/-- The induction over a run, along with its history. -/
theorem Session.run_induction {P : List Entry → Session → Prop} {session : Session} (steps : List Step)
    (hstart : P [] session)
    (hstep : ∀ past here step, step ∈ steps → P past here → P (past ++ [here.entry step]) (here.step step).2) :
    P (session.history steps) (session.run steps).2 := by
  suffices h : ∀ (rest : List Step) (past : List Entry) (here : Session), (∀ step ∈ rest, step ∈ steps) →
      P past here → P (past ++ here.history rest) (here.run rest).2 by
    exact h steps [] session (fun _ hmem => hmem) hstart
  intro rest
  induction rest with
  | nil => intro past here _ hp; simpa using hp
  | cons step rest ih =>
    intro past here hmem hp
    have hnext := ih (past ++ [here.entry step]) (here.step step).2 (fun s hs => hmem s (List.mem_cons_of_mem _ hs))
      (hstep past here step (hmem step (List.mem_cons_self ..)) hp)
    simpa only [Session.history_cons, Session.run_cons, List.append_assoc, List.singleton_append] using hnext

end BridgeLedger
