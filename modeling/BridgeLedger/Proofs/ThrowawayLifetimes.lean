import BridgeLedger.Proofs.Administration
import BridgeLedger.Proofs.InvisibleSteps
import BridgeLedger.Throwaway

/-!
# From the creation of a throwaway database to its end

Once the database exists, whatever becomes of it, the statement that drops it is sent exactly once (`Throwaway.use_eq`,
`Construction.beforeDrop?`). It is left over just if a fault keeps that statement from taking effect
(`nothing_left_over`, and `mem_use_iff_of_fresh` for a name that is new). All other databases stay as they are, and
where no fault interferes the steps are answered as they are on a database of their own (`isolated_and_faithful`).
-/

namespace BridgeLedger

namespace Throwaway

/-! ## The statements -/

def clearing (name : String) : String := s!"DROP DATABASE IF EXISTS {name}"

def creation (name : String) : String := s!"CREATE DATABASE {name}"

def disposal (name : String) : String := s!"DROP DATABASE IF EXISTS {name} WITH (FORCE)"

/-! ## Creating -/

/-- The database is new and empty, and nothing else has changed. -/
structure Made (cluster : Cluster) (admin name : String) (made : Cluster) : Prop where
  cleared : cluster.Passes admin (clearing name)
  databases : ∀ other, made.databases.lookup other = if other = name then some {} else cluster.databases.lookup other
  clock : made.clock = cluster.clock
  faults : made.faults = cluster.faults

/-- The database was not made; one of its name is still there if it could not even be cleared away. -/
structure Unmade (cluster : Cluster) (admin name : String) (after : Cluster) : Prop where
  others : ∀ other, other ≠ name → after.databases.lookup other = cluster.databases.lookup other
  own : name ∈ after.names ↔ name ∈ cluster.names ∧ ¬ cluster.Passes admin (clearing name)
  obstacle : admin ≠ name → cluster.Passes admin (clearing name) → ¬ cluster.Passes admin (creation name)

theorem create_eq (cluster : Cluster) (admin name : String) : create cluster admin name =
    match cluster.administer admin (clearing name) fun c => .ok (c.dropDatabase name) with
    | (.error cause, sent, left) => (.error cause, sent, left)
    | (.ok (), dropped, cleared) =>
      ((cleared.administer admin (creation name) fun c => c.createDatabase name).1,
        dropped ++ (cleared.administer admin (creation name) fun c => c.createDatabase name).2.1,
        (cleared.administer admin (creation name) fun c => c.createDatabase name).2.2) :=
  rfl

theorem create_cases (cluster : Cluster) (admin name : String) :
    (∃ sent made, create cluster admin name = (.ok (), sent, made) ∧ Made cluster admin name made) ∨
      ∃ cause sent after, create cluster admin name = (.error cause, sent, after) ∧
        Unmade cluster admin name after := by
  rw [create_eq]
  rcases cluster.administer_drop_cases admin (clearing name) name with
    ⟨hpasses, cleared, hclear, hfaults, hclock, hlookup⟩ | ⟨hfails, cause, sent, after, hclear, hspent⟩ <;>
    rw [hclear]
  · have hgone : name ∉ cleared.names := by rw [Cluster.mem_names_iff, hlookup, if_pos rfl]; exact Bool.false_ne_true
    rcases cleared.administer_create_cases hgone admin (creation name) with
      ⟨-, made, hmake, hfaults', hclock', hlookup'⟩ | ⟨hfails, cause, sent, after, hmake, hspent⟩
    · simp only [hmake]
      refine .inl ⟨_, made, rfl, hpasses, fun other => ?_, hclock'.trans hclock, hfaults'.trans hfaults⟩
      rw [hlookup', hlookup]
      split <;> rfl
    · simp only [hmake]
      refine .inr ⟨cause, _, after, rfl, fun other hother => ?_, ?_, fun hadmin _ hcreation => hfails ?_⟩
      · rw [hspent.databases, hlookup, if_neg hother]
      · rw [hspent.mem_names]
        exact iff_of_false hgone fun h => h.2 hpasses
      · -- clearing the name has left the administrator's database and the faults as they were
        refine ⟨⟨?_, hfaults ▸ hcreation.quiet⟩, hfaults ▸ hcreation.delivered⟩
        rw [Cluster.mem_names_iff, hlookup, if_neg hadmin, ← Cluster.mem_names_iff]
        exact hcreation.known
  · refine .inr ⟨cause, sent, after, rfl, fun other _ => hspent.databases other, ?_, fun _ h => absurd h hfails⟩
    rw [hspent.mem_names]
    exact ⟨fun hmem => ⟨hmem, hfails⟩, And.left⟩

/-! ## Dropping -/

theorem discard_eq (cluster : Cluster) (admin name : String) : discard cluster admin name =
    (cluster.administer admin (disposal name) fun c => .ok (c.dropDatabase name)).2 :=
  rfl

theorem discard_cases (cluster : Cluster) (admin name : String) :
    (cluster.Passes admin (disposal name) ∧ ∀ other, (discard cluster admin name).2.databases.lookup other =
        if other = name then none else cluster.databases.lookup other) ∨
      (¬ cluster.Passes admin (disposal name) ∧ cluster.Spent (discard cluster admin name).2) := by
  rw [discard_eq]
  rcases cluster.administer_drop_cases admin (disposal name) name with
    ⟨hpasses, after, hdrop, -, -, hlookup⟩ | ⟨hfails, cause, sent, after, hdrop, hspent⟩ <;> rw [hdrop]
  · exact .inl ⟨hpasses, hlookup⟩
  · exact .inr ⟨hfails, hspent⟩

theorem discard_others (cluster : Cluster) (admin : String) {name other : String} (hother : other ≠ name) :
    (discard cluster admin name).2.databases.lookup other = cluster.databases.lookup other := by
  rcases discard_cases cluster admin name with ⟨-, hlookup⟩ | ⟨-, hspent⟩
  · rw [hlookup, if_neg hother]
  · exact hspent.databases other

theorem mem_discard_iff {cluster : Cluster} {name : String} (hname : name ∈ cluster.names) (admin : String) :
    name ∈ (discard cluster admin name).2.names ↔ ¬ cluster.Passes admin (disposal name) := by
  rcases discard_cases cluster admin name with ⟨hpasses, hlookup⟩ | ⟨hfails, hspent⟩
  · rw [Cluster.mem_names_iff, hlookup, if_pos rfl]
    exact iff_of_false Bool.false_ne_true (not_not_intro hpasses)
  · exact iff_of_true (hspent.mem_names.mpr hname) hfails

/-! ## The whole lifetime -/

inductive Construction where
  | unmade (left : Cluster)
  | abandoned (left : Cluster)
  | ready (created : List Sent) (cluster : Cluster)

def construct (kind : Kind) (cluster : Cluster) (admin name : String) : Construction :=
  match create cluster admin name with
  | (.error _, _, cluster) => .unmade cluster
  | (.ok (), created, cluster) =>
    match kind with
    | .empty => .ready created cluster
    | .provisioned =>
      match cluster.provision name with
      | ({ answer := .error _, .. }, cluster) => .abandoned cluster
      | ({ answer := .ok (), sent, .. }, cluster) => .ready (created ++ sent) cluster

def exercise (cluster : Cluster) (name : String) (steps : List Step) : List (Report Reply) × Cluster :=
  cluster.visit name fun server =>
    let (reports, session) := Session.run { server } steps
    (reports, session.server)

/-- The cluster as it is when the database is to be dropped, if it was ever created. -/
def Construction.beforeDrop? (name : String) (steps : List Step) : Construction → Option Cluster
  | unmade _ => none
  | abandoned cluster => some cluster
  | ready _ cluster => some (exercise cluster name steps).2

section
variable (kind : Kind) (cluster : Cluster) (admin name : String) (steps : List Step)

theorem use_eq : use kind cluster admin name steps =
    match construct kind cluster admin name with
    | .unmade left => .failed left
    | .abandoned left => .failed (discard left admin name).2
    | .ready created cluster =>
      let (reports, last) := exercise cluster name steps
      .finished created cluster.databases.length reports (discard last admin name).1 (discard last admin name).2 := by
  unfold use construct
  rcases create cluster admin name with ⟨cause | ⟨⟩, created, made⟩
  · rfl
  · cases kind with
    | empty => rfl
    | provisioned =>
      rcases hprovision : made.provision name with ⟨⟨cause | ⟨⟩, log, sent⟩, ready⟩ <;> simp only [hprovision]
      rfl

theorem use_of_ready {created : List Sent} {ready : Cluster}
    (h : construct kind cluster admin name = .ready created ready) :
    ∃ databases dropped left, use kind cluster admin name steps =
      .finished created databases (exercise ready name steps).1 dropped left := by
  rw [use_eq, h]
  exact ⟨_, _, _, rfl⟩

theorem construct_cases :
    (∃ left, construct kind cluster admin name = .unmade left ∧ (create cluster admin name).1 ≠ .ok () ∧
        Unmade cluster admin name left) ∨
      ∃ made last, (create cluster admin name).1 = .ok () ∧ Made cluster admin name made ∧
        (construct kind cluster admin name).beforeDrop? name steps = some last ∧ Cluster.Aside name made last ∧
        (use kind cluster admin name steps).cluster = (discard last admin name).2 := by
  rw [use_eq]
  unfold construct
  rcases create_cases cluster admin name with ⟨sent, made, hcreate, hmade⟩ | ⟨cause, sent, after, hcreate, hunmade⟩
  · rw [hcreate]
    refine .inr ?_
    cases kind with
    | empty => exact ⟨made, _, rfl, hmade, rfl, made.visit_aside name _, rfl⟩
    | provisioned =>
      have haside := made.provision_aside name
      rcases hprovision : made.provision name with ⟨⟨cause | ⟨⟩, log, sent⟩, ready⟩ <;> rw [hprovision] at haside
      · exact ⟨made, ready, rfl, hmade, by simp only [hprovision]; rfl, haside, by simp only [hprovision]; rfl⟩
      · refine ⟨made, _, rfl, hmade, by simp only [hprovision]; rfl, haside.trans (ready.visit_aside name _), ?_⟩
        simp only [hprovision]
        rfl
  · rw [hcreate]
    exact .inl ⟨after, rfl, nofun, hunmade⟩

theorem use_others {other : String} (hother : other ≠ name) :
    (use kind cluster admin name steps).cluster.databases.lookup other = cluster.databases.lookup other := by
  rcases construct_cases kind cluster admin name steps with
    ⟨left, hunmade, _, h⟩ | ⟨made, last, _, h, _, haside, hdropped⟩
  · rw [use_eq, hunmade]
    exact h.others other hother
  · rw [hdropped, discard_others last admin hother, haside.others other hother, h.databases, if_neg hother]

theorem isSome_beforeDrop?_iff : ((construct kind cluster admin name).beforeDrop? name steps).isSome ↔
    (create cluster admin name).1 = .ok () := by
  rcases construct_cases kind cluster admin name steps with ⟨_, hunmade, hfailed, _⟩ | ⟨_, _, hcreated, _, hlast, _⟩
  · rw [hunmade]
    exact iff_of_false Bool.false_ne_true hfailed
  · rw [hlast]
    exact iff_of_true rfl hcreated

theorem mem_use_iff : name ∈ (use kind cluster admin name steps).cluster.names ↔
    (∃ last, (construct kind cluster admin name).beforeDrop? name steps = some last ∧
        ¬ last.Passes admin (disposal name)) ∨
      (name ∈ cluster.names ∧ ¬ cluster.Passes admin (clearing name)) := by
  rcases construct_cases kind cluster admin name steps with
    ⟨left, hunmade, _, h⟩ | ⟨made, last, _, h, hlast, haside, hdropped⟩
  · rw [use_eq, hunmade]
    exact h.own.trans ⟨.inr, fun hor => hor.resolve_left fun ⟨_, hlast, _⟩ => nomatch hlast⟩
  · have hname : name ∈ last.names := by
      rw [haside.own, Cluster.mem_names_iff, h.databases, if_pos rfl]
      rfl
    rw [hlast, hdropped, mem_discard_iff hname]
    refine ⟨fun hfails => .inl ⟨last, rfl, hfails⟩, ?_⟩
    rintro (⟨_, ⟨⟩, hfails⟩ | ⟨_, hfails⟩)
    · exact hfails
    · exact absurd h.cleared hfails

/-- Where no older database bears its name, the database is left over only if it was created and its disposal fails. -/
theorem mem_use_iff_of_fresh (hfresh : name ∉ cluster.names) :
    name ∈ (use kind cluster admin name steps).cluster.names ↔
      ∃ last, (construct kind cluster admin name).beforeDrop? name steps = some last ∧
        ¬ last.Passes admin (disposal name) := by
  rw [mem_use_iff]
  exact or_iff_left fun hold => hfresh hold.1

/-- Nothing is left over but what a fault protects: the database itself if it was created and its disposal fails, or an
older database of its name if that could not even be cleared away. Whatever else goes wrong after the creation, the
disposal is sent once; and if it fails, that goes unnoticed. -/
theorem nothing_left_over :
    (∀ other, other ≠ name →
        (use kind cluster admin name steps).cluster.databases.lookup other = cluster.databases.lookup other) ∧
      (((construct kind cluster admin name).beforeDrop? name steps).isSome ↔ (create cluster admin name).1 = .ok ()) ∧
      (∀ last, (construct kind cluster admin name).beforeDrop? name steps = some last →
        (use kind cluster admin name steps).cluster = (discard last admin name).2) ∧
      (name ∈ (use kind cluster admin name steps).cluster.names ↔
        (∃ last, (construct kind cluster admin name).beforeDrop? name steps = some last ∧
            ¬ last.Passes admin (disposal name)) ∨
          (name ∈ cluster.names ∧ ¬ cluster.Passes admin (clearing name))) ∧
      ∀ created ready, construct kind cluster admin name = .ready created ready → ∃ databases dropped left,
        use kind cluster admin name steps =
          .finished created databases (exercise ready name steps).1 dropped left := by
  refine ⟨fun other => use_others kind cluster admin name steps,
    isSome_beforeDrop?_iff kind cluster admin name steps, fun last hlast => ?_,
    mem_use_iff kind cluster admin name steps, fun _ _ => use_of_ready kind cluster admin name steps⟩
  rcases construct_cases kind cluster admin name steps with ⟨_, hunmade, _⟩ | ⟨_, _, _, _, hbefore, _, hdropped⟩
  · rw [hunmade] at hlast
    cases hlast
  · cases hbefore.symm.trans hlast
    exact hdropped

end

/-! ## Without interference -/

section
variable {cluster : Cluster} {admin name : String} (hfaultless : cluster.faults = [])
include hfaultless

theorem create_of_faultless (hne : admin ≠ name) (hadmin : admin ∈ cluster.names) :
    ∃ sent made, create cluster admin name = (.ok (), sent, made) ∧ Made cluster admin name made := by
  rcases create_cases cluster admin name with hmade | ⟨_, _, _, _, hunmade⟩
  · exact hmade
  · have hobstacle := hunmade.obstacle hne (Cluster.passes_of_faultless hfaultless hadmin _)
    exact absurd (Cluster.passes_of_faultless hfaultless hadmin _) hobstacle

end

theorem Made.server {cluster made : Cluster} {admin name : String} (h : Made cluster admin name made) :
    made.server name = { clock := cluster.clock, faults := cluster.faults } := by
  rw [Cluster.server, h.databases, if_pos rfl, h.clock, h.faults]
  rfl

theorem Made.known {cluster made : Cluster} {admin name : String} (h : Made cluster admin name made) :
    name ∈ made.names := by
  rw [Cluster.mem_names_iff, h.databases, if_pos rfl]
  rfl

theorem provision_fresh (clock : Timestamp) : (Server.provision { clock }).1.answer = .ok () := by
  have hundisturbed : Server.Undisturbed { clock } := ⟨rfl, rfl, fun _ _ => rfl⟩
  rw [Server.provision_of_undisturbed hundisturbed]
  rfl

section
variable {cluster : Cluster} {admin name : String} (hfaultless : cluster.faults = []) (hne : admin ≠ name)
  (hadmin : admin ∈ cluster.names)
include hfaultless hne hadmin

theorem construct_empty : ∃ created ready, construct .empty cluster admin name = .ready created ready ∧
    ready.server name = { clock := cluster.clock } := by
  obtain ⟨sent, made, hcreate, hmade⟩ := create_of_faultless hfaultless hne hadmin
  refine ⟨sent, made, by simp only [construct, hcreate], ?_⟩
  rw [hmade.server, hfaultless]

theorem construct_provisioned : ∃ created ready, construct .provisioned cluster admin name = .ready created ready ∧
    ready.server name = (Server.provision { clock := cluster.clock }).2 := by
  obtain ⟨sent, made, hcreate, hmade⟩ := create_of_faultless hfaultless hne hadmin
  obtain ⟨ready, hprovision, hserver⟩ := Cluster.provision_of_faultless (hmade.faults.trans hfaultless) hmade.known
  rw [hmade.server, hfaultless] at hprovision hserver
  have hok := provision_fresh cluster.clock
  generalize (Server.provision { clock := cluster.clock }).1 = report at hprovision hok
  obtain ⟨answer, log, texts⟩ := report
  cases hok
  exact ⟨sent ++ texts, ready, by simp only [construct, hcreate, hprovision], hserver⟩

end

/-- The database from which the throwaway database is made stays as it is, whatever the steps and the faults. Without
faults the steps are answered like those on a database without tables, or, if the tables are created first, like those
that follow the creation of the tables on such a database. -/
theorem isolated_and_faithful {admin name : String} (hne : admin ≠ name) (cluster : Cluster) (steps : List Step) :
    (∀ kind, (use kind cluster admin name steps).cluster.databases.lookup admin = cluster.databases.lookup admin) ∧
      (cluster.faults = [] → admin ∈ cluster.names →
        (∃ created databases dropped left, use .empty cluster admin name steps =
          .finished created databases (Session.run { server := { clock := cluster.clock } } steps).1 dropped left) ∧
        ∃ first reports created databases dropped left,
          (Session.run { server := { clock := cluster.clock } } (.provision :: steps)).1 = first :: reports ∧
          first.answer = .ok .done ∧
          use .provisioned cluster admin name steps = .finished created databases reports dropped left) := by
  refine ⟨fun kind => use_others kind cluster admin name steps hne, fun hfaultless hadmin => ⟨?_, ?_⟩⟩
  · obtain ⟨created, ready, hready, hserver⟩ := construct_empty hfaultless hne hadmin
    obtain ⟨databases, dropped, left, huse⟩ := use_of_ready .empty cluster admin name steps hready
    rw [exercise, Cluster.visit, hserver] at huse
    exact ⟨created, databases, dropped, left, huse⟩
  · obtain ⟨created, ready, hready, hserver⟩ := construct_provisioned hfaultless hne hadmin
    obtain ⟨databases, dropped, left, huse⟩ := use_of_ready .provisioned cluster admin name steps hready
    rw [exercise, Cluster.visit, hserver] at huse
    rw [Session.run_cons]
    refine ⟨_, _, created, databases, dropped, left, rfl, ?_, huse⟩
    simp only [Session.step, Report.map, provision_fresh, Except.map]

def ledgerCluster : Cluster where
  databases := [("ledger", { versions := some [1], moveTxs := some { nextKey := 7 } })]
  clock := ⟨1700000000⟩

theorem ledgerCluster_isolated :
    "ledger" ≠ databaseName "1_0" ∧ ledgerCluster.faults = [] ∧ "ledger" ∈ ledgerCluster.names ∧
      (use .provisioned ledgerCluster "ledger" (databaseName "1_0")
          [.operation .counts, .intervention (.dropTable .moveTxs), .provision]).cluster.databases.lookup "ledger" =
        some { versions := some [1], moveTxs := some { nextKey := 7 } } ∧
      ∃ created databases dropped left, use .empty ledgerCluster "ledger" (databaseName "1_0")
          [.operation .counts, .intervention (.dropTable .moveTxs), .provision] =
        .finished created databases (Session.run { server := { clock := ⟨1700000000⟩ } }
          [.operation .counts, .intervention (.dropTable .moveTxs), .provision]).1 dropped left := by
  have hne : "ledger" ≠ databaseName "1_0" := by decide
  obtain ⟨hisolated, hfaithful⟩ := isolated_and_faithful hne ledgerCluster
    [.operation .counts, .intervention (.dropTable .moveTxs), .provision]
  exact ⟨hne, rfl, List.mem_singleton.mpr rfl, hisolated .provisioned, (hfaithful rfl (List.mem_singleton.mpr rfl)).1⟩

end Throwaway

end BridgeLedger
