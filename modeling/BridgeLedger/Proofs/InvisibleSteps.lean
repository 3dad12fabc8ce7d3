import BridgeLedger.Proofs.Independence

/-!
# Invisible steps

All state is in the database: as long as no fault interferes, a lookup, a count and a new connection leave the server
as it is, and so does creating the tables of a complete ledger (`Session.SameServer.invisible`). So such steps may be
left out of a run, or put in, anywhere and any number of times: no other step can tell, and the database ends up the
same (`Session.invisible_steps`).
-/

namespace BridgeLedger

/-! ## Which steps are invisible -/

/-- All four tables exist, and exactly the version that this library works with is recorded. -/
def Database.isComplete (db : Database) : Bool :=
  db.depositRequests.isSome && db.moveTxs.isSome && db.withdrawalSigs.isSome && db.versions == some [schemaVersion]

def Step.isInvisible (db : Database) : Step → Bool
  | .operation call => !call.isRecord
  | .connect => true
  | .provision => db.isComplete
  | .intervention _ => false

/-- Every step that is left out of the run is invisible where it stands. -/
def Session.omitsInvisible (session : Session) : MarkedRun → Bool
  | [] => true
  | (step, kept) :: rest =>
    (kept || step.isInvisible session.server.database) && (session.step step).2.omitsInvisible rest

theorem Session.omitsInvisible_keep (session : Session) (steps : List Step) :
    session.omitsInvisible (MarkedRun.keep steps) = true := by
  induction steps generalizing session with
  | nil => rfl
  | cons step rest ih => exact ih _

theorem Database.provisioned_of_complete {db : Database} (h : db.isComplete = true) : db.provisioned = db := by
  obtain ⟨versions, requests, txs, sigs⟩ := db
  simp only [Database.isComplete, Bool.and_eq_true, beq_iff_eq, Option.isSome_iff_exists] at h
  obtain ⟨⟨⟨⟨_, rfl⟩, _, rfl⟩, _, rfl⟩, rfl⟩ := h
  rfl

/-! ## Sessions over one server -/

/-- The server is the same for both and has no fault pending, and neither has lost its connection. -/
structure Session.SameServer (session other : Session) : Prop where
  server : session.server = other.server
  faultless : session.server.faults = []
  connected : session.connection ≠ .lost
  connected' : other.connection ≠ .lost

theorem Server.Spent.eq_of_faultless {before after : Server} (hspent : before.Spent after)
    (hnone : before.faults = []) : after = before := by
  obtain ⟨database, clock, faults⟩ := before
  obtain ⟨database', clock', faults'⟩ := after
  obtain ⟨hdatabase, hclock, hfaults⟩ := hspent
  cases (show faults = [] from hnone)
  cases (show database' = database from hdatabase)
  cases (show clock' = clock from hclock)
  cases List.sublist_nil.mp hfaults
  rfl

theorem Session.connect_ne_lost (session : Session) : session.connect.2.connection ≠ .lost := by
  rcases session.server.accept_cases with ⟨_, haccept⟩ | ⟨_, _, _, haccept, _⟩ <;> simp [Session.connect, haccept]

theorem Session.step_ne_lost {session : Session} (hnone : session.server.faults = [])
    (hconnected : session.connection ≠ .lost) (step : Step) : (session.step step).2.connection ≠ .lost := by
  cases step with
  | provision | intervention => exact hconnected
  | connect => exact session.connect_ne_lost
  | operation call => exact fun hlost => hconnected ((Session.operate_lost_iff hnone call).mp hlost)

namespace Session.SameServer

variable {session other : Session} (h : session.SameServer other)
include h

theorem opened : session.opened = other.opened := by
  simp only [Session.opened, h.server, if_neg h.connected, if_neg h.connected']

theorem step {step : Step} (hfault : ∀ fault, step ≠ .intervention (.prepareFault fault)) :
    (session.step step).1 = (other.step step).1 ∧ (session.step step).2.SameServer (other.step step).2 := by
  have hnone' : other.server.faults = [] := h.server ▸ h.faultless
  have hsame : (session.step step).1 = (other.step step).1 ∧
      (session.step step).2.server = (other.step step).2.server := by
    cases step with
    | provision | connect | intervention => simp only [Session.step, Session.connect, h.server, and_self]
    | operation call =>
      -- opened, the two are one session
      have hoperate : session.operate call = other.operate call := by
        rw [← Session.operate_opened h.faultless, h.opened, Session.operate_opened hnone']
      exact ⟨congrArg Prod.fst hoperate, congrArg (·.2.server) hoperate⟩
  exact ⟨hsame.1, hsame.2, Session.step_faultless h.faultless hfault, Session.step_ne_lost h.faultless h.connected _,
    Session.step_ne_lost hnone' h.connected' _⟩

theorem invisible {step : Step} (hinvisible : step.isInvisible session.server.database = true) :
    (session.step step).2.SameServer other := by
  have hkept : (session.step step).2.server = session.server := by
    cases step with
    | provision =>
      rcases session.server.provision_cases with ⟨_, _, hspent⟩ | ⟨_, hspent⟩
      · rw [Database.provisioned_of_complete hinvisible] at hspent
        exact hspent.eq_of_faultless h.faultless
      · exact hspent.eq_of_faultless h.faultless
    | connect => exact session.connect_spent.eq_of_faultless h.faultless
    | operation call =>
      have hreads : call.isRecord = false := by simpa [Step.isInvisible] using hinvisible
      exact (session.operate_reads hreads).eq_of_faultless h.faultless
    | intervention what => cases hinvisible
  exact ⟨hkept.trans h.server, hkept ▸ h.faultless, Session.step_ne_lost h.faultless h.connected step, h.connected'⟩

end Session.SameServer

/-! ## Runs -/

section
variable {start : Session} (hfresh : start.server.faults = []) (hconnected : start.connection ≠ .lost)
include hfresh hconnected

theorem Session.parallel_of_omitsInvisible {marked : MarkedRun}
    (hfaults : ∀ fault, .intervention (.prepareFault fault) ∉ marked.shortened)
    (hmarked : start.omitsInvisible marked = true) :
    ∃ last last', marked.Parallel start start last last' ∧ last.server = last'.server := by
  have hunwind := Session.unwinding_along
    (fun rest s t => s.SameServer t ∧ (∀ fault, .intervention (.prepareFault fault) ∉ rest.shortened) ∧
      s.omitsInvisible rest = true) ?_ ?_ ⟨⟨rfl, hfresh, hconnected, hconnected⟩, hfaults, hmarked⟩
  · obtain ⟨last, last', hparallel, hsame, _⟩ := hunwind
    exact ⟨last, last', hparallel, hsame.server⟩
  · intro step rest s t ⟨hsame, hfaults, homits⟩
    have hfault : ∀ fault, step ≠ .intervention (.prepareFault fault) := by
      rintro fault rfl
      exact hfaults fault (List.mem_cons_self ..)
    obtain ⟨hreport, hnext⟩ := hsame.step hfault
    exact ⟨hreport, hnext, fun fault hmem => hfaults fault (List.mem_cons_of_mem _ hmem), homits⟩
  · intro step rest s t ⟨hsame, hfaults, homits⟩
    simp only [Session.omitsInvisible, Bool.false_or, Bool.and_eq_true] at homits
    exact ⟨hsame.invisible homits.1, hfaults, homits.2⟩

/-- Two runs without faults that differ in invisible steps alone: every step that they share reports the same in both,
and they end with the same server, and so with the same database. -/
theorem Session.invisible_steps {first second : MarkedRun} (hshared : first.shortened = second.shortened)
    (hfaults : ∀ fault, .intervention (.prepareFault fault) ∉ first.shortened)
    (hfirst : start.omitsInvisible first = true) (hsecond : start.omitsInvisible second = true) :
    start.keptReports first = start.keptReports second ∧
      (start.run first.whole).2.server = (start.run second.whole).2.server := by
  obtain ⟨last, shared, hparallel, hserver⟩ :=
    Session.parallel_of_omitsInvisible hfresh hconnected hfaults hfirst
  rw [hshared] at hfaults
  obtain ⟨last', shared', hparallel', hserver'⟩ :=
    Session.parallel_of_omitsInvisible hfresh hconnected hfaults hsecond
  have hend : shared = shared' := by
    rw [← hparallel.shortened, hshared, hparallel'.shortened]
  constructor
  · rw [hparallel.reports, hparallel'.reports, hshared]
  · rw [hparallel.whole, hparallel'.whole, hserver, hserver', hend]

end

/-- A signature is recorded and looked up; the steps in between look at tables that are missing or still empty, connect
anew, and create the tables once more. -/
def watchedRun : MarkedRun :=
  [(.operation .counts, false), (.connect, false), (.provision, true), (.operation (.moveTx 1), false),
    (.operation (signatureCall '1'), true), (.provision, false), (.operation (.withdrawalSigsFor "none"), false),
    (.intervention (.dropTable .moveTxs), true), (.operation .counts, false), (.connect, false),
    (.operation (.withdrawalSig 1), true)]

theorem watchedRun_invisible :
    Session.omitsInvisible {} watchedRun = true ∧
      Session.keptReports {} watchedRun = (Session.run {} watchedRun.shortened).1 ∧
      (Session.run {} watchedRun.whole).2.server.database =
        (Session.run {} watchedRun.shortened).2.server.database := by
  have hfaults : ∀ fault, .intervention (.prepareFault fault) ∉ watchedRun.shortened := by
    intro fault
    simp [watchedRun, MarkedRun.shortened]
  have homits : Session.omitsInvisible {} watchedRun = true := by decide +kernel
  have hshared : watchedRun.shortened = (MarkedRun.keep watchedRun.shortened).shortened :=
    (MarkedRun.shortened_keep _).symm
  obtain ⟨hreports, hserver⟩ := Session.invisible_steps rfl (by decide) hshared hfaults homits
    (Session.omitsInvisible_keep {} watchedRun.shortened)
  rw [Session.keptReports_keep] at hreports
  rw [MarkedRun.whole_keep] at hserver
  exact ⟨homits, hreports, congrArg (·.database) hserver⟩

end BridgeLedger
