import BridgeLedger.Maintenance
import BridgeLedger.Proofs.Machines
import Mathlib.Control.Monad.Basic

/-!
# The phases of the program

What the program comes to can be said without its log: `outcome` names the first phase that fails, or the counts if none
does. The program itself ends accordingly (`run_ends`): a phase that fails is the last one that has any effect, and only
if none fails is the summary printed, and success reported (`stops_at_first_failure`).
-/

namespace BridgeLedger.Maintenance

/-! ## What the phases come to -/

inductive Phase where
  | arguments | settings | setup | log | tables | connection | counts
deriving DecidableEq, Repr

def Phase.connections : Phase → Nat
  | arguments | settings | setup | log => 0
  | tables => 1
  | connection | counts => 2

def counted (machine : Machine) (c : Conninfo) : Except Phase Counts × Machine :=
  match machine.dial c with
  | (.error _, machine) => (.error .connection, machine)
  | (.ok (), machine) =>
    let (report, machine) := machine.talk c countTables
    (report.answer.mapError fun _ => .counts, machine)

def initialised (machine : Machine) (c : Conninfo) : Except Phase Counts × Machine :=
  match machine.converse c Server.createTables with
  | (.error _, machine) => (.error .tables, machine)
  | (.ok (), machine) => counted machine c

/-- The counts, or the first phase that fails, and the machine afterwards, without what is logged. -/
def outcome (machine : Machine) (arguments : List String) : Except Phase Counts × Machine :=
  match settingsPath? machine.home arguments with
  | none => (.error .arguments, machine)
  | some path =>
    match Settings.read machine.tree machine.here path with
    | .error _ => (.error .settings, machine)
    | .ok settings =>
      match settings.setUp machine.home machine.here machine.tree with
      | (.error _, tree) => (.error .setup, machine.withTree tree)
      | (.ok setup, tree) =>
        match Log.ofSetup setup tree machine.here with
        | .error _ => (.error .log, machine.withTree tree)
        | .ok (_, tree) => initialised (machine.withTree tree) setup.conninfo

/-! ## Logging -/

/-- The text begins as the lines of the log do. -/
def isLogText (text : String) : Bool := text.toList.head? == some '['

theorem isLogText_stamp (now : Timestamp) : isLogText now.stamp = true := by
  simp only [isLogText, Timestamp.stamp, String.toList_ofList, List.cons_append, List.head?_cons, beq_self_eq_true]

theorem isLogText_append {text : String} (h : isLogText text = true) (rest : String) :
    isLogText (text ++ rest) = true := by
  unfold isLogText at h ⊢
  rw [String.toList_append]
  cases htext : text.toList with
  | nil => simp [htext] at h
  | cons c _ => simpa [htext] using h

theorem Run.log_cases (run : Run) (log : Log) (origin : String) (line : LogLine) :
    run.log log origin line = run ∨
      (∃ text, isLogText text = true ∧ run.log log origin line = { run with stdout := run.stdout ++ [text] }) ∨
      ∃ place text, run.log log origin line = run.withTree (run.machine.tree.append place text) := by
  unfold Run.log
  split
  · cases log.file with
    | none =>
      refine .inr (.inl ⟨_, ?_, rfl⟩)
      simp only [String.append_assoc]
      exact isLogText_append (isLogText_stamp run.machine.now) _
    | some place => exact .inr (.inr ⟨place, _, rfl⟩)
  · exact .inl rfl

theorem Run.converse_eq {α : Type} (run : Run) (log : Log) (c : Conninfo)
    (conversation : Server → Report α × Server) : ∃ lines : List LogLine, run.converse log c conversation =
      ((run.machine.converse c conversation).1,
        lines.foldl (fun run line => run.log log connectionName line)
          { run with machine := (run.machine.converse c conversation).2, connections := run.connections + 1 }) := by
  unfold Run.converse Machine.converse
  rcases run.machine.dial c with ⟨cause | ⟨⟩, dialled⟩
  · exact ⟨[], rfl⟩
  · exact ⟨_, rfl⟩

/-- The run has brought the machine this far, with that many connections, and has otherwise only logged. -/
structure Run.At (run : Run) (machine : Machine) (connections : Nat) : Prop where
  tree : machine.tree.Alike run.machine.tree
  machine : run.machine = machine.withTree run.machine.tree
  stdout : ∀ text ∈ run.stdout, isLogText text = true
  stderr : run.stderr = []
  connections : run.connections = connections
  code : run.code = 0

section
variable {run : Run} {machine : Machine} {connections : Nat} (h : run.At machine connections) (log : Log)
include h

theorem Run.At.log_line (origin : String) (line : LogLine) : (run.log log origin line).At machine connections := by
  rcases run.log_cases log origin line with hlog | ⟨text, htext, hlog⟩ | ⟨place, text, hlog⟩ <;> rw [hlog]
  · exact h
  · refine { h with stdout := ?_ }
    intro text' hmem
    rcases List.mem_append.mp hmem with hmem | hmem
    · exact h.stdout text' hmem
    · rw [List.mem_singleton.mp hmem]
      exact htext
  · have hmachine := congrArg (Machine.withTree · (run.machine.tree.append place text)) h.machine
    exact ⟨h.tree.trans (run.machine.tree.append_alike place text), hmachine, h.stdout, h.stderr, h.connections,
      h.code⟩

theorem Run.At.log_lines (lines : List LogLine) :
    (lines.foldl (fun run line => run.log log connectionName line) run).At machine connections := by
  induction lines generalizing run with
  | nil => exact h
  | cons line rest ih => exact ih (h.log_line log connectionName line)

theorem Run.At.converse {α : Type} (c : Conninfo) (conversation : Server → Report α × Server) :
    (run.converse log c conversation).1 = (machine.converse c conversation).1 ∧
      (run.converse log c conversation).2.At (machine.converse c conversation).2 (connections + 1) := by
  -- what has been logged so far differs from run to run, but only in what files contain
  have hmachine : run.machine.converse c conversation =
      ((machine.converse c conversation).1, (machine.converse c conversation).2.withTree run.machine.tree) :=
    (congrArg (·.converse c conversation) h.machine).trans (Machine.converse_withTree h.tree c conversation)
  have hkept : (machine.converse c conversation).2.tree.Alike run.machine.tree := by
    rw [machine.converse_tree]
    exact h.tree
  obtain ⟨lines, hconverse⟩ := run.converse_eq log c conversation
  rw [hconverse, hmachine]
  refine ⟨rfl, Run.At.log_lines ?_ log lines⟩
  exact ⟨hkept, rfl, h.stdout, h.stderr, congrArg (· + 1) h.connections, h.code⟩

theorem Run.At.count (c : Conninfo) :
    (∃ counts after later, counted machine c = (.ok counts, after) ∧
        run.converse log c countTables = (.ok counts, later) ∧ later.At after (connections + 1)) ∨
      ∃ phase cause after later, counted machine c = (.error phase, after) ∧
        (phase = .connection ∨ phase = .counts) ∧ run.converse log c countTables = (.error cause, later) ∧
          later.At after (connections + 1) := by
  obtain ⟨hanswer, hreached⟩ := h.converse log c countTables
  unfold Machine.converse at hanswer hreached
  unfold counted
  generalize run.converse log c countTables = outcome at hanswer hreached ⊢
  generalize machine.dial c = dialled at hanswer hreached ⊢
  obtain ⟨answer, later⟩ := outcome
  rcases dialled with ⟨cause | ⟨⟩, dialled⟩
  · cases (show answer = .error (.server cause) from hanswer)
    exact .inr ⟨.connection, _, _, _, rfl, .inl rfl, rfl, hreached⟩
  · simp only at hanswer hreached ⊢
    rw [hanswer]
    cases (dialled.talk c countTables).1.answer with
    | error cause => exact .inr ⟨.counts, _, _, _, rfl, .inr rfl, rfl, hreached⟩
    | ok counts => exact .inl ⟨counts, _, _, rfl, rfl, hreached⟩

theorem Run.At.initialise (c : Conninfo) :
    (∃ counts after later, initialised machine c = (.ok counts, after) ∧
        run.initialise log c = (.ok counts, later) ∧ later.At after (connections + 2)) ∨
      ∃ phase cause after later, initialised machine c = (.error phase, after) ∧
        ((phase = .tables ∧ machine.Spent after) ∨ phase = .connection ∨ phase = .counts) ∧
        run.initialise log c = (.error cause, later) ∧ later.At after (connections + phase.connections) := by
  obtain ⟨hanswer, hfirst⟩ := h.converse log c Server.createTables
  unfold Run.initialise initialised
  rcases hcreate : run.converse log c Server.createTables with ⟨cause | ⟨⟩, created⟩ <;>
    rcases hcreate' : machine.converse c Server.createTables with ⟨cause' | ⟨⟩, machine'⟩ <;>
    rw [hcreate, hcreate'] at hanswer hfirst
  · have hspent := Machine.converse_failed Server.createTables_failed hcreate'
    exact .inr ⟨.tables, cause, _, _, rfl, .inl ⟨rfl, hspent⟩, rfl, hfirst⟩
  · cases hanswer
  · cases hanswer
  · have hready := hfirst.log_line log programName
      ⟨.info, s!"Database is ready (schema version {schemaVersion})"⟩
    rcases hready.count log c with
      ⟨counts, after, later, hcounted, hrun, hreached⟩ | ⟨phase, cause, after, later, hcounted, hphase, hrun, hreached⟩
    · have hlogged := hreached.log_line log programName ⟨.debug, "Ledger content: " ++ counts.text⟩
      refine .inl ⟨counts, after, _, hcounted, ?_, hlogged⟩
      simp only [hrun]
    · refine .inr ⟨phase, cause, after, later, hcounted, .inr hphase, ?_, ?_⟩
      · simp only [hrun]
      · rcases hphase with rfl | rfl <;> exact hreached

end

/-! ## The end of the program -/

inductive Ends (machine : Machine) : Except Phase Counts × Machine → Run → Prop
  | refused {phase : Phase} (early : phase = .arguments ∨ phase = .settings) (complaints : List String) :
      Ends machine (.error phase, machine) (Run.fail { machine } complaints)
  | unprepared {phase : Phase} {tree : FileTree} (early : phase = .setup ∨ phase = .log)
      (adds : FileTree.Adds 0o700 machine.tree tree) (complaints : List String) :
      Ends machine (.error phase, machine.withTree tree) (Run.fail { machine := machine.withTree tree } complaints)
  | failed {phase : Phase} {after : Machine} {run : Run} (reached : run.At after phase.connections)
      (late : (phase = .tables ∧ machine.cluster.Spent after.cluster) ∨ phase = .connection ∨ phase = .counts)
      (complaints : List String) : Ends machine (.error phase, after) (run.fail complaints)
  | done {counts : Counts} {after : Machine} {run : Run} (reached : run.At after 2) :
      Ends machine (.ok counts, after) { run with stdout := run.stdout ++ summary counts }

theorem serve_ends (machine : Machine) (tree : FileTree) (log : Log) (setup : Setup) :
    Ends machine (initialised (machine.withTree tree) setup.conninfo)
      (Run.serve { machine := machine.withTree tree } log setup) := by
  have hstart : Run.At { machine := machine.withTree tree } (machine.withTree tree) 0 :=
    ⟨.refl _, rfl, List.forall_mem_nil _, rfl, rfl, rfl⟩
  have hready := hstart.log_line log programName ⟨.debug, s!"Using data directory '{quoted setup.dataDir.text}'"⟩
  unfold Run.serve
  simp only
  generalize Run.log _ log programName _ = ready at hready ⊢
  rcases hready.initialise log setup.conninfo with
    ⟨counts, after, later, houtcome, hserved, hreached⟩ |
      ⟨phase, cause, after, later, houtcome, hlate, hserved, hreached⟩ <;> rw [houtcome, hserved]
  · exact .done hreached
  · rw [Nat.zero_add] at hreached
    refine .failed (hreached.log_line log programName _) ?_ _
    rcases hlate with ⟨htables, hspent⟩ | hlate
    · exact .inl ⟨htables, hspent.cluster⟩
    · exact .inr hlate

theorem run_ends (machine : Machine) (arguments : List String) :
    Ends machine (outcome machine arguments) (run machine arguments) := by
  unfold outcome run
  cases settingsPath? machine.home arguments with
  | none => exact .refused (.inl rfl) _
  | some path =>
    simp only
    cases Settings.read machine.tree machine.here path with
    | error cause => exact .refused (.inr rfl) _
    | ok settings =>
      have hadds := settings.setUp_adds machine.home machine.here machine.tree
      simp only [Run.prepare]
      generalize settings.setUp machine.home machine.here machine.tree = prepared at hadds ⊢
      obtain ⟨cause | setup, tree⟩ := prepared
      · exact .unprepared (.inl rfl) hadds _
      · simp only
        cases Log.ofSetup setup tree machine.here with
        | error cause => exact .unprepared (.inr rfl) hadds _
        | ok opened => exact serve_ends machine opened.2 opened.1 setup

theorem not_summary {texts : List String} (h : ∀ text ∈ texts, isLogText text = true) (counts : Counts) :
    ¬ summary counts <:+: texts := by
  intro hwithin
  have hbrace : isLogText "\x7b" = true := h _ (hwithin.subset (List.mem_cons_self ..))
  cases hbrace

/-- The program has reported the failure of the phase, and has had no effect of a later one. -/
structure Stopped (machine : Machine) (phase : Phase) (finished : Run) : Prop where
  code : finished.code = 1
  noSummary : ∀ counts, ¬ summary counts <:+: finished.stdout
  connections : finished.connections = phase.connections
  untouched : phase = .arguments ∨ phase = .settings → finished.machine = machine
  noFile : phase = .setup ∨ phase = .log → ∀ place content,
    finished.machine.tree.node? place = some (.file content) → machine.tree.node? place = some (.file content)
  databases : phase ≠ .connection → phase ≠ .counts → ∀ name,
    finished.machine.cluster.databases.lookup name = machine.cluster.databases.lookup name

section
variable {machine after : Machine} {finished : Run}

theorem Ends.stopped {phase : Phase} (h : Ends machine (.error phase, after) finished) :
    Stopped machine phase finished := by
  cases h with
  | refused early complaints =>
    refine ⟨rfl, not_summary (List.forall_mem_nil _), ?_, fun _ => rfl, fun _ _ _ h => h, fun _ _ _ => rfl⟩
    rcases early with rfl | rfl <;> rfl
  | unprepared early adds complaints =>
    refine ⟨rfl, not_summary (List.forall_mem_nil _), ?_, ?_, fun _ _ _ h => adds.file h, fun _ _ _ => rfl⟩
    · rcases early with rfl | rfl <;> rfl
    · rcases early with rfl | rfl <;> simp
  | failed reached late complaints =>
    refine ⟨rfl, not_summary reached.stdout, reached.connections, ?_, ?_, ?_⟩
    · rcases late with ⟨rfl, _⟩ | rfl | rfl <;> simp
    · rcases late with ⟨rfl, _⟩ | rfl | rfl <;> simp
    · intro hconnection hcounts name
      rcases late with ⟨_, hspent⟩ | rfl | rfl
      · rw [← hspent.databases name]
        exact congrArg (fun m => m.cluster.databases.lookup name) reached.machine
      · exact absurd rfl hconnection
      · exact absurd rfl hcounts

theorem Ends.succeeded {counts : Counts} (h : Ends machine (.ok counts, after) finished) :
    finished.code = 0 ∧ ∃ lines, finished.stdout = lines ++ summary counts := by
  cases h with
  | done reached => exact ⟨reached.code, _, rfl⟩

end

/-- The program reports success exactly if no phase fails, and has then printed the summary. Otherwise it stops at the
first phase that fails: it reports a failure and prints no summary; arguments or settings that are refused leave the
whole machine as it was; if the setup or the log fails, there is no new file and no connection; and if creating the
tables fails, every database is as it was, and there is no second connection. -/
theorem stops_at_first_failure (machine : Machine) (arguments : List String) :
    let finished := run machine arguments
    (finished.code = 0 ↔ ∃ counts, (outcome machine arguments).1 = .ok counts) ∧
      (∀ counts, (outcome machine arguments).1 = .ok counts → ∃ lines, finished.stdout = lines ++ summary counts) ∧
      ∀ phase, (outcome machine arguments).1 = .error phase → Stopped machine phase finished := by
  intro finished
  have hends : Ends machine (outcome machine arguments) finished := run_ends machine arguments
  generalize outcome machine arguments = course at hends ⊢
  obtain ⟨phase | counts, after⟩ := course
  · have hstopped := hends.stopped
    refine ⟨iff_of_false ?_ ?_, ?_, ?_⟩
    · rw [hstopped.code]
      decide
    · rintro ⟨_, ⟨⟩⟩
    · rintro _ ⟨⟩
    · rintro _ ⟨⟩
      exact hstopped
  · obtain ⟨hcode, hprinted⟩ := hends.succeeded
    refine ⟨iff_of_true hcode ⟨counts, rfl⟩, ?_, ?_⟩
    · rintro _ ⟨⟩
      exact hprinted
    · rintro _ ⟨⟩

def laterMachine : Machine where
  home := "/home/keeper"
  user := "keeper"
  tree :=
    { entries :=
        [(["conf"], .file (Utf8.encode "postgres_uri='host=/sock'")), (["home"], .directory 0o755),
          (["home", "keeper"], .directory 0o700), (["sock"], .directory 0o755), (["sock", ".s.PGSQL.5432"], .socket)] }
  cluster := { databases := [("keeper", { versions := some [2] })] }

/-- The same user on a machine without sockets, whose network has a server with an empty database. -/
def networkMachine : Machine where
  home := "/home/keeper"
  user := "keeper"
  tree :=
    { entries :=
        [(["conf"], .file (Utf8.encode "postgres_uri='postgresql://db:5433/?target_session_attrs=read-write'")),
          (["home"], .directory 0o755), (["home", "keeper"], .directory 0o700)] }
  hosts := [("db", [.v4 [10, 0, 0, 1], .v4 [10, 0, 0, 2]])]
  listeners := [(.v4 [10, 0, 0, 2], 5433)]
  cluster := { databases := [("keeper", {})] }

theorem laterMachine_stops :
    (outcome laterMachine ["--conf", "/conf"]).1 = .error .tables ∧
      (run laterMachine ["--conf", "/conf"]).code = 1 ∧ (run laterMachine ["--conf", "/conf"]).connections = 1 ∧
      (∀ name, (run laterMachine ["--conf", "/conf"]).machine.cluster.databases.lookup name =
        laterMachine.cluster.databases.lookup name) ∧
      (outcome networkMachine ["--conf", "/conf"]).1 = .ok ⟨0, 0, 0⟩ ∧
      (run networkMachine ["--conf", "/conf"]).code = 0 ∧
      ∃ lines, (run networkMachine ["--conf", "/conf"]).stdout = lines ++ summary ⟨0, 0, 0⟩ := by
  have hphase : (outcome laterMachine ["--conf", "/conf"]).1 = .error .tables := by decide +kernel
  have hcounts : (outcome networkMachine ["--conf", "/conf"]).1 = .ok ⟨0, 0, 0⟩ := by decide +kernel
  obtain ⟨_, _, hstops⟩ := stops_at_first_failure laterMachine ["--conf", "/conf"]
  obtain ⟨hsucceeds, hprints, _⟩ := stops_at_first_failure networkMachine ["--conf", "/conf"]
  have hstopped := hstops .tables hphase
  exact ⟨hphase, hstopped.code, hstopped.connections, hstopped.databases (by decide) (by decide), hcounts,
    hsucceeds.mpr ⟨_, hcounts⟩, hprints _ hcounts⟩

end BridgeLedger.Maintenance
