import BridgeLedger.Cluster
import BridgeLedger.Proofs.Machines

/-!
# Administering a cluster

A conversation with one database leaves all others as they are, and makes or drops none (`Cluster.lookup_visit`). A
statement about the databases takes effect if the database over which it is sent exists and no pending fault is in the
way (`Cluster.Passes`); otherwise nothing changes, but for faults (`Cluster.administer_cases`).
-/

namespace BridgeLedger

namespace Cluster

/-! ## Names -/

theorem mem_names_iff {cluster : Cluster} {name : String} :
    name ∈ cluster.names ↔ (cluster.databases.lookup name).isSome = true := by
  rw [List.lookup_isSome_iff, names, List.mem_map]
  exact exists_congr fun entry => and_congr_right fun _ => eq_comm.trans beq_iff_eq.symm

theorem lookup_visit {α : Type} (cluster : Cluster) (name : String) (talk : Server → α × Server) (other : String) :
    (cluster.visit name talk).2.databases.lookup other =
      if other = name then (cluster.databases.lookup other).map fun _ => (talk (cluster.server name)).2.database
      else cluster.databases.lookup other :=
  cluster.lookup_absorb name _ other

/-- The later cluster has a database of the name if the earlier had one, and all other databases are the same. -/
structure Aside (name : String) (before after : Cluster) : Prop where
  others : ∀ other, other ≠ name → after.databases.lookup other = before.databases.lookup other
  own : name ∈ after.names ↔ name ∈ before.names

section
variable {name : String} {before middle after : Cluster}

theorem Aside.trans (hfirst : Aside name before middle) (hsecond : Aside name middle after) :
    Aside name before after :=
  ⟨fun other hother => (hsecond.others other hother).trans (hfirst.others other hother), hsecond.own.trans hfirst.own⟩

theorem Spent.mem_names (h : before.Spent after) : name ∈ after.names ↔ name ∈ before.names := by
  rw [mem_names_iff, mem_names_iff, h.databases]

theorem Spent.aside (h : before.Spent after) : Aside name before after :=
  ⟨fun other _ => h.databases other, h.mem_names⟩

theorem visit_aside {α : Type} (cluster : Cluster) (name : String) (talk : Server → α × Server) :
    Aside name cluster (cluster.visit name talk).2 where
  others other hother := by rw [lookup_visit, if_neg hother]
  own := by rw [mem_names_iff, mem_names_iff, lookup_visit, if_pos rfl, Option.isSome_map]

theorem server_absorb {cluster : Cluster} (hname : name ∈ cluster.names) (server : Server) :
    (cluster.absorb name server).server name = server := by
  obtain ⟨database, hdatabase⟩ := Option.isSome_iff_exists.mp (mem_names_iff.mp hname)
  rw [Cluster.server, lookup_absorb, if_pos rfl, hdatabase]
  rfl

end

/-! ## Opening connections -/

/-- The database exists, and no pending fault keeps a connection to it from being opened. -/
structure Opens (cluster : Cluster) (name : String) : Prop where
  known : name ∈ cluster.names
  quiet : ∀ fault ∈ cluster.faults, fault.fits .connect "" = false

theorem quiet_server {cluster : Cluster} {name text : String} {kind : EventKind} :
    (cluster.server name).quiet kind text = true ↔ ∀ fault ∈ cluster.faults, fault.fits kind text = false := by
  simp [Server.quiet, Cluster.server]

theorem accept_cases (cluster : Cluster) (name : String) :
    (cluster.Opens name ∧ ∃ after, cluster.accept name = (.ok (), after) ∧ cluster.Spent after ∧
        after.faults = cluster.faults) ∨
      (¬ cluster.Opens name ∧ ∃ cause after, cluster.accept name = (.error cause, after) ∧ cluster.Spent after) := by
  have hspent := cluster.visit_spent name (Server.accept_spent (cluster.server name))
  rcases (cluster.server name).accept_cases with ⟨hquiet, haccept⟩ | ⟨hquiet, cause, server, haccept, -⟩
  · have hvisit : cluster.visit name Server.accept = (.ok (), cluster.absorb name (cluster.server name)) := by
      simp only [Cluster.visit, haccept]
    rw [hvisit] at hspent
    simp only [Cluster.accept, hvisit]
    by_cases hname : name ∈ (cluster.absorb name (cluster.server name)).names
    · rw [if_pos hname]
      exact .inl ⟨⟨hspent.mem_names.mp hname, quiet_server.mp hquiet⟩, _, rfl, hspent, rfl⟩
    · rw [if_neg hname]
      exact .inr ⟨fun h => hname (hspent.mem_names.mpr h.known), _, _, rfl, hspent⟩
  · have hvisit : cluster.visit name Server.accept = (.error cause, cluster.absorb name server) := by
      simp only [Cluster.visit, haccept]
    rw [hvisit] at hspent
    refine .inr ⟨fun h => ?_, cause, _, by simp only [Cluster.accept, hvisit], hspent⟩
    rw [quiet_server.mpr h.quiet] at hquiet
    cases hquiet

/-! ## Statements about the databases -/

/-- No pending fault is in the way of a statement that is sent over a new connection to the database. -/
structure Passes (cluster : Cluster) (admin text : String) : Prop extends cluster.Opens admin where
  delivered : ∀ fault ∈ cluster.faults, fault.fits .simple text = false

theorem administer_of_accept {cluster opened : Cluster} {admin : String} (h : cluster.accept admin = (.ok (), opened))
    (text : String) (effect : Cluster → Except SqlState Cluster) : cluster.administer admin text effect =
      match opened.visit admin (·.send text) with
      | ((.error cause, sent), after) => (.error cause, sent, after)
      | ((.ok (), sent), after) =>
        match effect after with
        | .error code => (.error (.refused code), sent, after)
        | .ok made => (.ok (), sent, made) := by
  unfold administer
  split
  next haccept => cases h.symm.trans haccept
  next haccept =>
    cases h.symm.trans haccept
    rfl

theorem administer_cases (cluster : Cluster) (admin text : String) (effect : Cluster → Except SqlState Cluster) :
    (cluster.Passes admin text ∧ ∃ after, cluster.Spent after ∧ after.faults = cluster.faults ∧
        cluster.administer admin text effect =
          match effect after with
          | .error code => (.error (.refused code), [.simple text], after)
          | .ok made => (.ok (), [.simple text], made)) ∨
      (¬ cluster.Passes admin text ∧ ∃ cause sent after,
        cluster.administer admin text effect = (.error cause, sent, after) ∧ cluster.Spent after) := by
  rcases cluster.accept_cases admin with
    ⟨hopens, opened, haccept, hopened, hfaults⟩ | ⟨hopens, cause, after, haccept, hspent⟩
  · have hsends := administer_of_accept haccept text effect
    have hspent := opened.send_spent admin text
    rcases (opened.server admin).send_cases text with ⟨hquiet, hsend⟩ | ⟨hquiet, cause, sent, server, hsend, -⟩
    · rw [Cluster.visit, hsend] at hspent hsends
      refine .inl ⟨⟨hopens, ?_⟩, _, hopened.trans hspent, hfaults, hsends⟩
      rw [← hfaults]
      exact quiet_server.mp hquiet
    · rw [Cluster.visit, hsend] at hspent hsends
      refine .inr ⟨fun h => ?_, cause, sent, _, hsends, hopened.trans hspent⟩
      rw [quiet_server.mpr (hfaults ▸ h.delivered)] at hquiet
      cases hquiet
  · refine .inr ⟨fun h => hopens h.toOpens, cause, [], after, ?_, hspent⟩
    simp only [Cluster.administer, haccept]

/-! ## Dropping and creating -/

theorem lookup_dropDatabase (cluster : Cluster) (name other : String) :
    (cluster.dropDatabase name).databases.lookup other =
      if other = name then none else cluster.databases.lookup other := by
  simp only [dropDatabase]
  induction cluster.databases with
  | nil => exact (ite_self none).symm
  | cons entry rest ih =>
    obtain ⟨first, database⟩ := entry
    by_cases hfirst : first = name
    · subst hfirst
      rw [List.filter_cons_of_neg (by simp), ih, List.lookup_cons]
      by_cases hother : other = first
      · rw [if_pos hother, if_pos hother]
      · rw [if_neg hother, if_neg hother, beq_eq_false_iff_ne.mpr hother]
    · rw [List.filter_cons_of_pos (by simpa using hfirst), List.lookup_cons, List.lookup_cons, ih]
      by_cases hother : other = first
      · rw [if_neg (by rwa [hother]), if_neg (by rwa [hother])]
      · rw [beq_eq_false_iff_ne.mpr hother]

theorem administer_drop_cases (cluster : Cluster) (admin text name : String) :
    (cluster.Passes admin text ∧ ∃ after,
        cluster.administer admin text (fun c => .ok (c.dropDatabase name)) = (.ok (), [.simple text], after) ∧
          after.faults = cluster.faults ∧ after.clock = cluster.clock ∧ ∀ other, after.databases.lookup other =
            if other = name then none else cluster.databases.lookup other) ∨
      (¬ cluster.Passes admin text ∧ ∃ cause sent after,
        cluster.administer admin text (fun c => .ok (c.dropDatabase name)) = (.error cause, sent, after) ∧
          cluster.Spent after) := by
  rcases cluster.administer_cases admin text fun c => .ok (c.dropDatabase name) with
    ⟨hpasses, sent, hspent, hfaults, hanswer⟩ | hfails
  · refine .inl ⟨hpasses, _, hanswer, hfaults, hspent.clock, fun other => ?_⟩
    rw [lookup_dropDatabase, hspent.databases]
  · exact .inr hfails

theorem administer_create_cases {cluster : Cluster} {name : String} (hname : name ∉ cluster.names)
    (admin text : String) :
    (cluster.Passes admin text ∧ ∃ made,
        cluster.administer admin text (fun c => c.createDatabase name) = (.ok (), [.simple text], made) ∧
          made.faults = cluster.faults ∧ made.clock = cluster.clock ∧ ∀ other, made.databases.lookup other =
            if other = name then some {} else cluster.databases.lookup other) ∨
      (¬ cluster.Passes admin text ∧ ∃ cause sent after,
        cluster.administer admin text (fun c => c.createDatabase name) = (.error cause, sent, after) ∧
          cluster.Spent after) := by
  rcases cluster.administer_cases admin text fun c => c.createDatabase name with
    ⟨hpasses, after, hspent, hfaults, hanswer⟩ | hfails
  · have hfree : name ∉ after.names := fun hmem => hname (hspent.mem_names.mp hmem)
    have hnone : after.databases.lookup name = none := by
      rwa [mem_names_iff, Bool.not_eq_true, Option.isSome_eq_false_iff, Option.isNone_iff_eq_none] at hfree
    rw [createDatabase, if_neg hfree] at hanswer
    refine .inl ⟨hpasses, _, hanswer, hfaults, hspent.clock, fun other => ?_⟩
    rw [← hspent.databases, List.lookup_append, List.lookup_cons]
    by_cases hother : other = name
    · rw [hother, hnone, beq_self_eq_true, if_pos rfl, Option.none_or]
    · rw [if_neg hother, beq_eq_false_iff_ne.mpr hother, List.lookup_nil, Option.or_none]
  · exact .inr hfails

/-! ## Creating the tables -/

theorem provision_aside (cluster : Cluster) (name : String) : Aside name cluster (cluster.provision name).2 := by
  have hspent := cluster.accept_spent name
  unfold provision
  rcases haccept : cluster.accept name with ⟨cause | ⟨⟩, opened⟩ <;> rw [haccept] at hspent
  · exact hspent.aside
  · exact hspent.aside.trans (opened.visit_aside name Server.createTables)

/-! ## Without faults -/

section
variable {cluster : Cluster} {name : String} (hfaultless : cluster.faults = [])
include hfaultless

theorem opens_of_faultless (hname : name ∈ cluster.names) : cluster.Opens name where
  known := hname
  quiet := by simp [hfaultless]

theorem passes_of_faultless (hname : name ∈ cluster.names) (text : String) : cluster.Passes name text where
  toOpens := opens_of_faultless hfaultless hname
  delivered := by simp [hfaultless]

theorem provision_of_faultless (hname : name ∈ cluster.names) :
    ∃ ready, cluster.provision name = ((cluster.server name).provision.1, ready) ∧
      ready.server name = (cluster.server name).provision.2 := by
  rcases cluster.accept_cases name with ⟨_, opened, haccept, hspent, hfaults⟩ | ⟨hnot, _⟩
  · have hserver : opened.server name = cluster.server name := by
      rw [Cluster.server, Cluster.server, hspent.databases, hspent.clock, hfaults]
    have hquiet : (cluster.server name).quiet .connect "" = true := by simp [Server.quiet, Cluster.server, hfaultless]
    have hprovision : (cluster.server name).provision = (cluster.server name).createTables := by
      simp only [Server.provision, Server.accept, Server.strike_of_quiet hquiet]
    refine ⟨opened.absorb name (cluster.server name).createTables.2, ?_, ?_⟩
    · simp only [provision, haccept, Cluster.visit, hserver, hprovision]
    · rw [server_absorb (hspent.mem_names.mpr hname), hprovision]
  · exact absurd (opens_of_faultless hfaultless hname) hnot

end

end Cluster

end BridgeLedger
