import BridgeLedger.Proofs.Runs

/-!
# Runs with steps left out

In a marked run, each step is marked as one that is kept or one that is left out. The whole run takes all of its steps,
the shortened run those that are kept. If some relation between a session of the whole run and one of the shortened
run survives a step that both take, which reports the same to both, and also a step that only the whole run takes, then
no kept step can tell the two runs apart: `Session.unwinding`. The relation may also speak of what is still to come
(`Session.unwinding_along`).
-/

namespace BridgeLedger

abbrev MarkedRun := List (Step × Bool)

def MarkedRun.whole (marked : MarkedRun) : List Step := marked.map Prod.fst

def MarkedRun.shortened (marked : MarkedRun) : List Step := (marked.filter Prod.snd).map Prod.fst

def Session.keptReports (session : Session) : MarkedRun → List (Report Reply)
  | [] => []
  | (step, true) :: rest => (session.step step).1 :: (session.step step).2.keptReports rest
  | (step, false) :: rest => (session.step step).2.keptReports rest

/-- The kept steps report the same in the whole run from this session as in the shortened run from the other. -/
def Session.SameReports (session other : Session) (marked : MarkedRun) : Prop :=
  session.keptReports marked = (other.run marked.shortened).1

/-! ## One part after another -/

section
variable (first second : MarkedRun)

@[simp] theorem MarkedRun.whole_cons (mark : Step × Bool) (rest : MarkedRun) :
    MarkedRun.whole (mark :: rest) = mark.1 :: rest.whole := rfl

@[simp] theorem MarkedRun.whole_append : (first ++ second).whole = first.whole ++ second.whole := List.map_append

@[simp] theorem MarkedRun.shortened_append : (first ++ second).shortened = first.shortened ++ second.shortened := by
  simp only [MarkedRun.shortened, List.filter_append, List.map_append]

theorem Session.keptReports_append (session : Session) :
    session.keptReports (first ++ second) =
      session.keptReports first ++ (session.run first.whole).2.keptReports second := by
  induction first generalizing session with
  | nil => rfl
  | cons mark rest ih =>
    obtain ⟨step, kept⟩ := mark
    cases kept with
    | true => exact congrArg (List.cons _) (ih _)
    | false => exact ih _

end

/-- The whole run leads from the one session to `last`, the shortened run from the other to `last'`, and the kept steps
cannot tell the two apart. -/
structure MarkedRun.Parallel (marked : MarkedRun) (session other last last' : Session) : Prop where
  reports : session.SameReports other marked
  whole : (session.run marked.whole).2 = last
  shortened : (other.run marked.shortened).2 = last'

theorem MarkedRun.Parallel.append {first second : MarkedRun} {session other middle middle' last last' : Session}
    (hfirst : first.Parallel session other middle middle') (hsecond : second.Parallel middle middle' last last') :
    (first ++ second).Parallel session other last last' where
  reports := by
    have hsame := hsecond.reports
    unfold Session.SameReports at hsame ⊢
    rw [Session.keptReports_append, MarkedRun.shortened_append, Session.run_append_reports, hfirst.reports,
      hfirst.whole, hfirst.shortened, hsame]
  whole := by rw [MarkedRun.whole_append, Session.run_append, hfirst.whole, hsecond.whole]
  shortened := by rw [MarkedRun.shortened_append, Session.run_append, hfirst.shortened, hsecond.shortened]

theorem MarkedRun.Parallel.omit (session other : Session) (step : Step) :
    MarkedRun.Parallel [(step, false)] session other (session.step step).2 other :=
  ⟨rfl, rfl, rfl⟩

/-! ## Leaving out all steps of a kind -/

def MarkedRun.without (p : Step → Bool) (steps : List Step) : MarkedRun := steps.map fun step => (step, !p step)

section
variable {p : Step → Bool} {steps : List Step}

@[simp] theorem MarkedRun.whole_without : (MarkedRun.without p steps).whole = steps := by
  unfold MarkedRun.whole MarkedRun.without
  rw [List.map_map]
  exact List.map_id steps

theorem MarkedRun.shortened_without : (MarkedRun.without p steps).shortened = steps.filter fun step => !p step := by
  unfold MarkedRun.shortened MarkedRun.without
  rw [List.filter_map, List.map_map]
  exact List.map_id _

theorem MarkedRun.mem_without {step : Step} {kept : Bool} (h : (step, kept) ∈ MarkedRun.without p steps) :
    step ∈ steps ∧ p step = !kept := by
  obtain ⟨step', hmem, hmark⟩ := List.mem_map.mp h
  obtain ⟨rfl, rfl⟩ := Prod.mk.inj hmark
  exact ⟨hmem, (Bool.not_not _).symm⟩

end

/-! ## Keeping all steps -/

def MarkedRun.keep (steps : List Step) : MarkedRun := .without (fun _ => false) steps

section
variable (steps : List Step)

@[simp] theorem MarkedRun.whole_keep : (MarkedRun.keep steps).whole = steps := MarkedRun.whole_without

@[simp] theorem MarkedRun.shortened_keep : (MarkedRun.keep steps).shortened = steps := by
  unfold MarkedRun.keep
  rw [MarkedRun.shortened_without]
  simp

theorem Session.keptReports_keep (session : Session) :
    session.keptReports (MarkedRun.keep steps) = (session.run steps).1 := by
  induction steps generalizing session with
  | nil => rfl
  | cons step rest ih => exact congrArg (List.cons _) (ih _)

theorem MarkedRun.Parallel.keep {session other last last' : Session} {reports : List (Report Reply)}
    (hrun : session.run steps = (reports, last)) (hrun' : other.run steps = (reports, last')) :
    (MarkedRun.keep steps).Parallel session other last last' where
  reports := by rw [Session.SameReports, Session.keptReports_keep, MarkedRun.shortened_keep, hrun, hrun']
  whole := by rw [MarkedRun.whole_keep, hrun]
  shortened := by rw [MarkedRun.shortened_keep, hrun']

end

/-! ## Unwinding -/

/-- The relation may also speak of the steps that are still to come. -/
theorem Session.unwinding_along (R : MarkedRun → Session → Session → Prop)
    (hkept : ∀ step rest s t, R ((step, true) :: rest) s t →
      (s.step step).1 = (t.step step).1 ∧ R rest (s.step step).2 (t.step step).2)
    (hleft : ∀ step rest s t, R ((step, false) :: rest) s t → R rest (s.step step).2 t) {marked : MarkedRun}
    {session other : Session} (hstart : R marked session other) :
    ∃ last last', marked.Parallel session other last last' ∧ R [] last last' := by
  -- the relation is what the two runs keep, step by step
  induction marked generalizing session other with
  | nil => exact ⟨session, other, ⟨rfl, rfl, rfl⟩, hstart⟩
  | cons mark rest ih =>
    obtain ⟨step, kept⟩ := mark
    cases kept with
    | true =>
      obtain ⟨hreport, hnext⟩ := hkept step rest session other hstart
      obtain ⟨last, last', hparallel, hend⟩ := ih hnext
      have hstep : (MarkedRun.keep [step]).Parallel session other (session.step step).2 (other.step step).2 := by
        refine .keep [step] (Session.run_cons ..) ?_
        rw [Session.run_cons, hreport]
        rfl
      exact ⟨last, last', hstep.append hparallel, hend⟩
    | false =>
      obtain ⟨last, last', hparallel, hend⟩ := ih (hleft step rest session other hstart)
      exact ⟨last, last', (MarkedRun.Parallel.omit session other step).append hparallel, hend⟩

theorem Session.unwinding (R : Session → Session → Prop) (marked : MarkedRun)
    (hkept : ∀ step s t, (step, true) ∈ marked → R s t →
      (s.step step).1 = (t.step step).1 ∧ R (s.step step).2 (t.step step).2)
    (hleft : ∀ step s t, (step, false) ∈ marked → R s t → R (s.step step).2 t) {session other : Session}
    (hstart : R session other) : ∃ last last', marked.Parallel session other last last' ∧ R last last' := by
  have halong := Session.unwinding_along (fun rest s t => rest ⊆ marked ∧ R s t) ?_ ?_ ⟨fun _ hmem => hmem, hstart⟩
  · obtain ⟨last, last', hparallel, _, hend⟩ := halong
    exact ⟨last, last', hparallel, hend⟩
  · intro step rest s t ⟨hsub, hr⟩
    obtain ⟨hmem, hrest⟩ := List.cons_subset.mp hsub
    obtain ⟨hreport, hnext⟩ := hkept step s t hmem hr
    exact ⟨hreport, hrest, hnext⟩
  · intro step rest s t ⟨hsub, hr⟩
    obtain ⟨hmem, hrest⟩ := List.cons_subset.mp hsub
    exact ⟨hrest, hleft step s t hmem hr⟩

end BridgeLedger
