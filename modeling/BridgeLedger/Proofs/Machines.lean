import BridgeLedger.Machine
import BridgeLedger.Proofs.SchemaTransaction
import BridgeLedger.Proofs.Trees

/-!
# Connections from a machine

Opening a connection uses up pending faults and changes nothing else on the machine (`Machine.dial_spent`), whatever
its outcome; and a conversation that leaves its server as it was leaves every database of the cluster as it was
(`Cluster.visit_spent`). The contents of files make no difference to either (`Machine.converse_withTree`).
-/

namespace BridgeLedger

/-! ## Clusters -/

theorem Cluster.lookup_absorb (cluster : Cluster) (name : String) (server : Server) (other : String) :
    (cluster.absorb name server).databases.lookup other =
      if other = name then (cluster.databases.lookup other).map fun _ => server.database
      else cluster.databases.lookup other := by
  simp only [Cluster.absorb, beq_iff_eq]
  exact lookup_replaced cluster.databases name server.database other

/-- The later cluster differs from the earlier in the faults that struck meanwhile; every name still has the same
database. -/
structure Cluster.Spent (before after : Cluster) : Prop where
  databases : ∀ name, after.databases.lookup name = before.databases.lookup name
  clock : after.clock = before.clock
  faults : after.faults.Sublist before.faults

theorem Cluster.Spent.refl (cluster : Cluster) : cluster.Spent cluster :=
  ⟨fun _ => rfl, rfl, List.Sublist.refl _⟩

theorem Cluster.Spent.trans {a b c : Cluster} (hab : a.Spent b) (hbc : b.Spent c) : a.Spent c :=
  ⟨fun name => (hbc.databases name).trans (hab.databases name), hbc.clock.trans hab.clock,
    hbc.faults.trans hab.faults⟩

theorem Cluster.visit_spent {α : Type} (cluster : Cluster) (name : String) {conversation : Server → α × Server}
    (hspent : (cluster.server name).Spent (conversation (cluster.server name)).2) :
    cluster.Spent (cluster.visit name conversation).2 where
  databases other := by
    show (cluster.absorb name _).databases.lookup other = _
    rw [Cluster.lookup_absorb, hspent.database]
    by_cases hname : other = name
    · subst hname
      simp only [Cluster.server, ite_true]
      cases cluster.databases.lookup other <;> rfl
    · rw [if_neg hname]
  clock := hspent.clock
  faults := hspent.faults

theorem Cluster.accept_spent (cluster : Cluster) (name : String) : cluster.Spent (cluster.accept name).2 := by
  have hspent := cluster.visit_spent name (Server.accept_spent (cluster.server name))
  unfold Cluster.accept
  rcases hvisit : cluster.visit name Server.accept with ⟨_ | _, after⟩ <;> rw [hvisit] at hspent <;> exact hspent

theorem Cluster.send_spent (cluster : Cluster) (name text : String) :
    cluster.Spent (cluster.visit name (·.send text)).2 := cluster.visit_spent name (Server.send_spent _ text)

theorem Cluster.probe_spent (cluster : Cluster) (name : String) (wanted : TargetSessionAttrs) :
    cluster.Spent (cluster.probe name wanted).2 := by
  have hspent := cluster.send_spent name "SHOW transaction_read_only"
  unfold Cluster.probe
  split
  · exact .refl cluster
  · rcases hvisit : cluster.visit name (·.send "SHOW transaction_read_only") with ⟨⟨_ | _, _⟩, after⟩ <;>
      rw [hvisit] at hspent <;> exact hspent

/-! ## Dialling -/

structure Machine.Spent (before after : Machine) : Prop where
  cluster : before.cluster.Spent after.cluster
  rest : after = { before with cluster := after.cluster }

theorem Machine.Spent.refl (machine : Machine) : machine.Spent machine := ⟨.refl _, rfl⟩

theorem Machine.Spent.trans {a b c : Machine} (hab : a.Spent b) (hbc : b.Spent c) : a.Spent c where
  cluster := hab.cluster.trans hbc.cluster
  rest := by rw [hbc.rest, hab.rest]

theorem Machine.dialAny_spent {α : Type} {dial : Machine → α → Except ServerError Unit × Machine}
    (hdial : ∀ (machine : Machine) (a : α), machine.Spent (dial machine a).2) (machine : Machine) (last : ServerError)
    (list : List α) : machine.Spent (machine.dialAny dial last list).2 := by
  induction list generalizing machine last with
  | nil => exact .refl machine
  | cons a rest ih =>
    have hspent := hdial machine a
    unfold Machine.dialAny
    rcases hanswer : dial machine a with ⟨cause | _, after⟩ <;> rw [hanswer] at hspent
    · exact hspent.trans (ih after cause)
    · exact hspent

section
variable (machine : Machine) (c : Conninfo)

theorem Machine.dialAt_spent (endpoint : Endpoint) : machine.Spent (machine.dialAt c endpoint).2 := by
  have haccepted := machine.cluster.accept_spent (c.databaseName machine.user)
  unfold Machine.dialAt
  split
  · exact .refl machine
  · split
    · exact .refl machine
    · split
      · exact .refl machine
      · rcases haccept : machine.cluster.accept (c.databaseName machine.user) with ⟨_ | _, opened⟩ <;>
          rw [haccept] at haccepted
        · exact ⟨haccepted, rfl⟩
        · simp only
          split
          · exact ⟨haccepted, rfl⟩
          · exact ⟨haccepted.trans (opened.probe_spent _ _), rfl⟩

theorem Machine.dialHost_spent (address : Address) : machine.Spent (machine.dialHost c address).2 :=
  Machine.dialAny_spent (fun m endpoint => m.dialAt_spent c endpoint) machine _ _

theorem Machine.dial_spent : machine.Spent (machine.dial c).2 := by
  unfold Machine.dial
  cases c.addresses with
  | error cause => exact .refl machine
  | ok addresses => exact Machine.dialAny_spent (fun m address => m.dialHost_spent c address) machine _ _

end

/-! ## Conversations -/

def Machine.converse {α : Type} (machine : Machine) (c : Conninfo) (conversation : Server → Report α × Server) :
    Except LedgerError α × Machine :=
  match machine.dial c with
  | (.error cause, machine) => (.error (.server cause), machine)
  | (.ok (), machine) =>
    let (report, machine) := machine.talk c conversation
    (report.answer, machine)

theorem Machine.converse_tree {α : Type} (machine : Machine) (c : Conninfo)
    (conversation : Server → Report α × Server) : (machine.converse c conversation).2.tree = machine.tree := by
  have hdialled : (machine.dial c).2.tree = machine.tree := by rw [(machine.dial_spent c).rest]
  unfold Machine.converse
  rcases hdial : machine.dial c with ⟨_ | ⟨⟩, dialled⟩ <;> rw [hdial] at hdialled <;> exact hdialled

/-- A conversation that fails leaves the machine as it was, but for faults, if that is what it does to a server. -/
theorem Machine.converse_failed {α : Type} {machine after : Machine} {c : Conninfo}
    {conversation : Server → Report α × Server} {cause : LedgerError}
    (hconversation : ∀ server cause, (conversation server).1.answer = .error cause →
      server.Spent (conversation server).2)
    (hfails : machine.converse c conversation = (.error cause, after)) : machine.Spent after := by
  have hspent := machine.dial_spent c
  unfold Machine.converse at hfails
  rcases hdial : machine.dial c with ⟨_ | ⟨⟩, dialled⟩ <;> rw [hdial] at hfails hspent
  · cases hfails
    exact hspent
  · obtain ⟨hanswer, hafter⟩ := Prod.mk.inj hfails
    have hvisit := dialled.cluster.visit_spent (c.databaseName dialled.user) (hconversation _ cause hanswer)
    rw [← hafter]
    exact hspent.trans ⟨hvisit, rfl⟩

theorem Server.createTables_failed (server : Server) (cause : LedgerError)
    (hfails : server.createTables.1.answer = .error cause) : server.Spent server.createTables.2 := by
  rcases Line.createTables_cases { server } with ⟨hok, _⟩ | ⟨_, hspent⟩
  · cases hok.symm.trans hfails
  · exact hspent

/-! ## What files contain -/

def Machine.withTree (machine : Machine) (tree : FileTree) : Machine := { machine with tree }

section
variable {α : Type} {dial : Machine → α → Except ServerError Unit × Machine} {tree : FileTree}

theorem Machine.dialAny_withTree (hspent : ∀ (machine : Machine) (a : α), machine.Spent (dial machine a).2)
    (hdial : ∀ {machine : Machine}, machine.tree.Alike tree → ∀ a,
      dial (machine.withTree tree) a = ((dial machine a).1, (dial machine a).2.withTree tree))
    {machine : Machine} (h : machine.tree.Alike tree) (last : ServerError) (list : List α) :
    (machine.withTree tree).dialAny dial last list =
      ((machine.dialAny dial last list).1, (machine.dialAny dial last list).2.withTree tree) := by
  induction list generalizing machine last with
  | nil => rfl
  | cons a rest ih =>
    have hkept : (dial machine a).2.tree.Alike tree := by
      rw [(hspent machine a).rest]
      exact h
    unfold Machine.dialAny
    rw [hdial h]
    generalize dial machine a = outcome at hkept ⊢
    obtain ⟨cause | _, after⟩ := outcome
    · exact ih hkept cause
    · rfl

end

section
variable {machine : Machine} {tree : FileTree} (h : machine.tree.Alike tree) (c : Conninfo)
include h

theorem Machine.hasServer_withTree (endpoint : Endpoint) :
    (machine.withTree tree).hasServer endpoint = machine.hasServer endpoint := by
  cases endpoint with
  | tcp => rfl
  | unix directory port =>
    simp only [Machine.hasServer, Machine.withTree]
    cases Utf8.decode? directory with
    | none => rfl
    | some name =>
      simp only [← h.resolve]
      cases machine.tree.resolve machine.here (FileTree.join name s!".s.PGSQL.{port}") with
      | error cause => rfl
      | ok place =>
        have hnode := h place
        simp only
        generalize machine.tree.node? place = a, tree.node? place = b at hnode ⊢
        cases hnode with
        | none => rfl
        | some halike => cases halike <;> rfl

theorem Machine.dialAt_withTree (endpoint : Endpoint) :
    (machine.withTree tree).dialAt c endpoint =
      ((machine.dialAt c endpoint).1, (machine.dialAt c endpoint).2.withTree tree) := by
  unfold Machine.dialAt
  rw [Machine.hasServer_withTree h]
  split
  · rfl
  · split
    · rfl
    · split
      · rfl
      · simp only [Machine.withTree]
        rcases machine.cluster.accept (c.databaseName machine.user) with ⟨_ | _, opened⟩
        · rfl
        · simp only
          split <;> rfl

theorem Machine.dialHost_withTree (address : Address) :
    (machine.withTree tree).dialHost c address =
      ((machine.dialHost c address).1, (machine.dialHost c address).2.withTree tree) :=
  Machine.dialAny_withTree (fun m => m.dialAt_spent c) (fun h => Machine.dialAt_withTree h c) h _
    (machine.endpoints address)

theorem Machine.dial_withTree :
    (machine.withTree tree).dial c = ((machine.dial c).1, (machine.dial c).2.withTree tree) := by
  unfold Machine.dial
  cases c.addresses with
  | error cause => rfl
  | ok addresses =>
    exact Machine.dialAny_withTree (fun m => m.dialHost_spent c) (fun h => Machine.dialHost_withTree h c) h _ addresses

theorem Machine.converse_withTree {α : Type} (conversation : Server → Report α × Server) :
    (machine.withTree tree).converse c conversation =
      ((machine.converse c conversation).1, (machine.converse c conversation).2.withTree tree) := by
  unfold Machine.converse
  rw [Machine.dial_withTree h]
  rcases machine.dial c with ⟨_ | ⟨⟩, dialled⟩ <;> rfl

end

end BridgeLedger
