import BridgeLedger.Proofs.CountedTables
import BridgeLedger.Proofs.DataDirectory
import BridgeLedger.Proofs.GrowingTrees

/-!
# The program run again

What the program makes of its arguments and settings, it makes again on any tree that has grown since, as long as the
settings can still be read (`Maintenance.Preparation.exists_again`). From there on it logs, completes the database and
counts its rows (`Maintenance.Finished`), and a completed database is counted as the one before. So a run that succeeded
may be repeated, and apart from the log nothing changes any more (`Maintenance.run_repeated`). A log that is written
into the file with the settings spoils them (`Maintenance.logged_into_settings`).
-/

namespace BridgeLedger

/-- The machine at a later time, when no fault is pending. -/
def Machine.afterwards (machine : Machine) (now clock : Timestamp) : Machine :=
  { machine with now, cluster := { machine.cluster with clock, faults := [] } }

namespace Maintenance

/-! ## Lines of the log -/

section
variable (run : Run) (log : Log)

theorem Run.log_appended (origin : String) (line : LogLine) :
    FileTree.Appended log.file run.machine.tree (run.log log origin line).machine.tree := by
  unfold Run.log
  split
  · cases hfile : log.file with
    | none => exact .refl _ _
    | some place => exact FileTree.append_appended _ place _
  · exact .refl _ _

theorem Run.log_lines_appended (lines : List LogLine) : FileTree.Appended log.file run.machine.tree
    (lines.foldl (fun run line => run.log log connectionName line) run).machine.tree := by
  induction lines generalizing run with
  | nil => exact .refl _ _
  | cons line rest ih => exact (run.log_appended log connectionName line).trans (ih _)

theorem Run.converse_appended {α : Type} (c : Conninfo) (conversation : Server → Report α × Server) :
    FileTree.Appended log.file run.machine.tree (run.converse log c conversation).2.machine.tree := by
  obtain ⟨lines, hconverse⟩ := run.converse_eq log c conversation
  rw [hconverse, ← run.machine.converse_tree c conversation]
  exact Run.log_lines_appended { run with machine := _, connections := _ } log lines

theorem Run.initialise_appended (c : Conninfo) :
    FileTree.Appended log.file run.machine.tree (run.initialise log c).2.machine.tree := by
  have hcreate := run.converse_appended log c Server.createTables
  unfold Run.initialise
  generalize run.converse log c Server.createTables = answer at hcreate ⊢
  obtain ⟨cause | ⟨⟩, created⟩ := answer
  · exact hcreate
  · have hready := created.log_appended log programName
      ⟨.info, s!"Database is ready (schema version {schemaVersion})"⟩
    simp only
    generalize created.log log programName _ = ready at hready ⊢
    have hcount := ready.converse_appended log c countTables
    generalize ready.converse log c countTables = answer at hcount ⊢
    obtain ⟨cause | counts, counted⟩ := answer
    · exact (hcreate.trans hready).trans hcount
    · exact ((hcreate.trans hready).trans hcount).trans (counted.log_appended log programName _)

theorem Run.serve_appended (setup : Setup) :
    FileTree.Appended log.file run.machine.tree (run.serve log setup).machine.tree := by
  have hstart := run.log_appended log programName ⟨.debug, s!"Using data directory '{quoted setup.dataDir.text}'"⟩
  unfold Run.serve
  simp only
  generalize run.log log programName _ = started at hstart ⊢
  have hinitialise := started.initialise_appended log setup.conninfo
  generalize started.initialise log setup.conninfo = answer at hinitialise ⊢
  obtain ⟨cause | counts, initialised⟩ := answer
  · exact (hstart.trans hinitialise).trans (initialised.log_appended log programName _)
  · exact hstart.trans hinitialise

end

/-! ## Opening the log -/

section
variable {setup : Setup} {here : Place} {made tree : FileTree} {log : Log}
  (h : Log.ofSetup setup made here = .ok (log, tree))
include h

theorem Log.ofSetup_cases : (setup.logToFile = false ∧ log = ⟨setup.logLimit, none⟩ ∧ tree = made) ∨
    ∃ place, setup.logToFile = true ∧ log = ⟨setup.logLimit, some place⟩ ∧
      made.openFile here setup.logFile.text = .ok (place, tree) := by
  unfold Log.ofSetup at h
  split at h
  · next hfile =>
    obtain ⟨⟨place, opened⟩, hopen, hanswer⟩ := bind_ok_iff.mp h
    cases hanswer
    exact .inr ⟨place, hfile, rfl, hopen⟩
  · next hfile =>
    cases h
    exact .inl ⟨Bool.eq_false_iff.mpr hfile, rfl, rfl⟩

theorem Log.ofSetup_grows : made.Grows tree := by
  rcases Log.ofSetup_cases h with ⟨-, -, rfl⟩ | ⟨place, -, -, hopen⟩
  · exact (FileTree.Alike.refl _).grows
  · exact (FileTree.openFile_opened hopen).grows

theorem Log.ofSetup_again {later : FileTree} (hgrows : tree.Grows later) :
    Log.ofSetup setup later here = .ok (log, later) := by
  unfold Log.ofSetup
  rcases Log.ofSetup_cases h with ⟨hfile, rfl, -⟩ | ⟨place, hfile, rfl, hopen⟩ <;> rw [hfile]
  · rfl
  · simp only [if_true, FileTree.openFile_again hopen hgrows]
    rfl

end

/-! ## Up to the open log -/

/-- What the program has made of its arguments and of the tree once the log is open. -/
structure Preparation (machine : Machine) (arguments : List String) where
  path : String
  settings : Settings
  setup : Setup
  log : Log
  made : FileTree
  tree : FileTree
  named : settingsPath? machine.home arguments = some path
  read : Settings.read machine.tree machine.here path = .ok settings
  setUp : settings.setUp machine.home machine.here machine.tree = (.ok setup, made)
  opened : Log.ofSetup setup made machine.here = .ok (log, tree)

namespace Preparation

variable {machine later : Machine} {arguments : List String}

variable (p : Preparation machine arguments)

def databaseName : String := p.setup.conninfo.databaseName machine.user

theorem outcome_eq : outcome machine arguments = initialised (machine.withTree p.tree) p.setup.conninfo := by
  simp only [outcome, p.named, p.read, p.setUp, p.opened]

theorem run_eq : run machine arguments = Run.serve { machine := machine.withTree p.tree } p.log p.setup := by
  simp only [run, Run.prepare, Run.withTree, p.named, p.read, p.setUp, p.opened]
  rfl

theorem adds : FileTree.Adds 0o700 machine.tree p.made := by
  have hadds := p.settings.setUp_adds machine.home machine.here machine.tree
  rwa [p.setUp] at hadds

theorem grows : machine.tree.Grows p.tree := p.adds.grows.trans (Log.ofSetup_grows p.opened)

theorem exists_again (hhome : later.home = machine.home) (hhere : later.here = machine.here)
    (hgrows : p.tree.Grows later.tree) (hread : Settings.read later.tree machine.here p.path = .ok p.settings) :
    ∃ q : Preparation later arguments, q.setup = p.setup ∧ q.log = p.log ∧ q.tree = later.tree := by
  obtain ⟨limit, hlimit, -, hsettle⟩ := Settings.setUp_ok p.setUp
  obtain ⟨hcanonical, hconninfo⟩ := Settings.settle_ok_iff.mp hsettle
  have hcanonical' := ((Log.ofSetup_grows p.opened).trans hgrows).canonical_ok hcanonical
  have hsetup : p.settings.setUp later.home later.here later.tree = (.ok p.setup, later.tree) := by
    rw [hhome, hhere]
    exact Settings.setUp_of_settle hlimit (Settings.settle_ok_iff.mpr ⟨hcanonical', hconninfo⟩)
  have hopened : Log.ofSetup p.setup later.tree later.here = .ok (p.log, later.tree) := by
    rw [hhere, Log.ofSetup_again p.opened hgrows]
  exact ⟨⟨p.path, p.settings, p.setup, p.log, later.tree, later.tree, hhome ▸ p.named, hhere ▸ hread, hsetup, hopened⟩,
    rfl, rfl, rfl⟩

end Preparation

/-! ## From the open log to the summary -/

theorem Ends.reached {machine after : Machine} {finished : Run} {counts : Counts}
    (h : Ends machine (.ok counts, after) finished) :
    after.tree.Alike finished.machine.tree ∧ finished.machine = after.withTree finished.machine.tree := by
  cases h with
  | done reached => exact ⟨reached.tree, reached.machine⟩

/-- The run has completed the database `db`, counted its rows and written to the log, and has done nothing else. -/
structure Finished {machine : Machine} {arguments : List String} (p : Preparation machine arguments) (db : Database)
    (finished : Run) : Prop where
  code : finished.code = 0
  printed : ∃ lines, finished.stdout = lines ++ summary db.counts
  provisioned : Provisioned (machine.withTree p.tree) p.setup.conninfo db (finished.machine.withTree p.tree)
  alike : p.tree.Alike finished.machine.tree
  written : FileTree.Appended p.log.file p.tree finished.machine.tree

section
variable {machine : Machine} {arguments : List String} {p : Preparation machine arguments}

theorem Preparation.finished {counts : Counts} {after : Machine}
    (h : initialised (machine.withTree p.tree) p.setup.conninfo = (.ok counts, after)) :
    ∃ db, Finished p db (run machine arguments) := by
  obtain ⟨db, rfl, hprovisioned⟩ := initialised_ok h
  have hends := run_ends machine arguments
  rw [p.outcome_eq, h] at hends
  obtain ⟨hcode, hprinted⟩ := hends.succeeded
  obtain ⟨halike, hmachine⟩ := hends.reached
  have hafter : after.tree = p.tree := by
    rw [hprovisioned.rest]
    rfl
  have hback : (run machine arguments).machine.withTree p.tree = after := by
    rw [hmachine, ← hafter]
    rfl
  refine ⟨db, hcode, hprinted, by rwa [hback], hafter ▸ halike, ?_⟩
  rw [p.run_eq]
  exact Run.serve_appended { machine := machine.withTree p.tree } p.log p.setup

end

/-! ## The next run -/

section
variable {machine : Machine} {arguments : List String} {p : Preparation machine arguments} {db : Database}
  {finished : Run}

theorem Finished.again (h : Finished p db finished)
    (hread : Settings.read finished.machine.tree machine.here p.path = .ok p.settings) (now clock : Timestamp) :
    ∃ q : Preparation (finished.machine.afterwards now clock) arguments, q.setup = p.setup ∧ q.log = p.log ∧
      q.tree = finished.machine.tree ∧
      Finished q db.provisioned (run (finished.machine.afterwards now clock) arguments) := by
  have hhome : (finished.machine.withTree p.tree).home = machine.home := by
    rw [h.provisioned.rest]
    rfl
  have hhere : (finished.machine.withTree p.tree).here = machine.here := by
    rw [h.provisioned.rest]
    rfl
  obtain ⟨q, hsetup, hlog, htree⟩ : ∃ q : Preparation (finished.machine.afterwards now clock) arguments,
      q.setup = p.setup ∧ q.log = p.log ∧ q.tree = finished.machine.tree :=
    p.exists_again hhome hhere h.alike.grows hread
  have hresembles : (finished.machine.withTree p.tree).Resembles (finished.machine.afterwards now clock) :=
    ⟨h.alike, rfl, rfl, rfl, rfl, fun _ => id⟩
  have hoffers := hresembles.offers h.provisioned.offers_after
  have hknown := h.provisioned.known_after
  have hinitialised : ∃ counts after,
      initialised ((finished.machine.afterwards now clock).withTree q.tree) q.setup.conninfo = (.ok counts, after) := by
    rw [hsetup, htree]
    exact initialised_of_offers rfl hoffers hknown db.compatible_provisioned
  obtain ⟨counts, after, hinitialised⟩ := hinitialised
  obtain ⟨db', hfinished⟩ := Preparation.finished hinitialised
  -- what the next run finds is the database that this one has completed
  have hknown' := hfinished.provisioned.known
  rw [hsetup] at hknown'
  cases hknown.symm.trans hknown'
  exact ⟨q, hsetup, hlog, htree, hfinished⟩

end

end Maintenance

end BridgeLedger
