import BridgeLedger.Proofs.Administration

/-!
# Who answers a call

A connection can be opened only if a server listens at an endpoint of one of the addresses, can do what is asked of it
and has the database (`Machine.Offers`). If no fault is pending, that is all it takes (`Machine.dial_of_offers`); so a
connection that was opened once can be opened again, whatever has been written to files meanwhile.
-/

namespace BridgeLedger

/-! ## The kind of server -/

section
variable {cluster : Cluster} {name : String} {wanted : TargetSessionAttrs}

theorem Cluster.writable_of_probe (h : (cluster.probe name wanted).1 = .ok ()) : wanted ≠ .readOnly := by
  rintro rfl
  unfold Cluster.probe at h
  rw [if_neg nofun] at h
  rcases hvisit : cluster.visit name (·.send "SHOW transaction_read_only") with ⟨⟨_ | _, _⟩, after⟩ <;>
    rw [hvisit] at h <;> cases h

theorem Cluster.probe_of_faultless (hfaultless : cluster.faults = []) (name : String) (hwritable : wanted ≠ .readOnly) :
    (cluster.probe name wanted).1 = .ok () := by
  have hquiet : (cluster.server name).quiet .simple "SHOW transaction_read_only" = true :=
    Server.quiet_of_faultless hfaultless _ _
  unfold Cluster.probe
  split
  · rfl
  · rcases (cluster.server name).send_cases "SHOW transaction_read_only" with ⟨_, hsend⟩ | ⟨hnot, _⟩
    · simp only [Cluster.visit, hsend]
    · cases hquiet.symm.trans hnot

end

/-! ## Whom a machine can reach -/

namespace Machine

/-- A server listens at the endpoint, can do what is asked of it, and has the database. -/
structure Answers (machine : Machine) (c : Conninfo) (endpoint : Endpoint) : Prop where
  listening : machine.hasServer endpoint = true
  plain : c.sslMode ≠ .require
  sendable : c.isSendable = true
  unbound : c.channelBinding ≠ .require
  writable : c.targetSessionAttrs ≠ .readOnly
  known : c.databaseName machine.user ∈ machine.cluster.names

def AnswersAt (machine : Machine) (c : Conninfo) (address : Address) : Prop :=
  ∃ endpoint ∈ machine.endpoints address, machine.Answers c endpoint

def Offers (machine : Machine) (c : Conninfo) : Prop :=
  ∃ addresses, c.addresses = .ok addresses ∧ ∃ address ∈ addresses, machine.AnswersAt c address

theorem Offers.known {machine : Machine} {c : Conninfo} (h : machine.Offers c) :
    c.databaseName machine.user ∈ machine.cluster.names := by
  obtain ⟨_, _, _, _, _, _, hanswers⟩ := h
  exact hanswers.known

/-! ## Other machines -/

/-- The other machine has the same network and user, and at least the same databases; its tree differs in what the files
contain. -/
structure Resembles (machine other : Machine) : Prop where
  tree : machine.tree.Alike other.tree
  here : other.here = machine.here
  user : other.user = machine.user
  hosts : other.hosts = machine.hosts
  listeners : other.listeners = machine.listeners
  names : ∀ name ∈ machine.cluster.names, name ∈ other.cluster.names

section
variable {machine other : Machine} (h : machine.Resembles other)
include h

theorem Resembles.hasServer (endpoint : Endpoint) : other.hasServer endpoint = machine.hasServer endpoint := by
  rw [← hasServer_withTree h.tree endpoint]
  unfold Machine.hasServer
  rw [h.here, h.listeners]
  rfl

theorem Resembles.endpoints (address : Address) : other.endpoints address = machine.endpoints address := by
  unfold Machine.endpoints lookUp
  rw [h.hosts]

variable {c : Conninfo}

theorem Resembles.answers {endpoint : Endpoint} (hanswers : machine.Answers c endpoint) : other.Answers c endpoint where
  listening := (h.hasServer endpoint).trans hanswers.listening
  plain := hanswers.plain
  sendable := hanswers.sendable
  unbound := hanswers.unbound
  writable := hanswers.writable
  known := by
    rw [h.user]
    exact h.names _ hanswers.known

theorem Resembles.answersAt {address : Address} (hanswers : machine.AnswersAt c address) :
    other.AnswersAt c address := by
  obtain ⟨endpoint, hmem, hendpoint⟩ := hanswers
  exact ⟨endpoint, h.endpoints address ▸ hmem, h.answers hendpoint⟩

theorem Resembles.offers (hoffers : machine.Offers c) : other.Offers c := by
  obtain ⟨addresses, haddresses, address, hmem, hanswers⟩ := hoffers
  exact ⟨addresses, haddresses, address, hmem, h.answersAt hanswers⟩

end

theorem resembles_of_rest {machine other : Machine} (hrest : other = { machine with cluster := other.cluster })
    (hnames : ∀ name ∈ machine.cluster.names, name ∈ other.cluster.names) : machine.Resembles other where
  tree := by
    rw [hrest]
    exact .refl _
  here := by rw [hrest]
  user := by rw [hrest]
  hosts := by rw [hrest]
  listeners := by rw [hrest]
  names := hnames

section
variable {before after : Machine} (h : before.Spent after)
include h

theorem Spent.resembles : before.Resembles after := resembles_of_rest h.rest fun _ => h.cluster.mem_names.mpr

theorem Spent.resembled : after.Resembles before :=
  resembles_of_rest (by rw [h.rest]) fun _ => h.cluster.mem_names.mp

theorem Spent.faultless (hfaultless : before.cluster.faults = []) : after.cluster.faults = [] :=
  List.sublist_nil.mp (hfaultless ▸ h.cluster.faults)

end

/-! ## One after the other -/

section
variable {α : Type} {dial : Machine → α → Except ServerError Unit × Machine} (Able : Machine → α → Prop)
  (hspent : ∀ (machine : Machine) (a : α), machine.Spent (dial machine a).2)
include hspent

theorem exists_of_dialAny (hable : ∀ {before after : Machine}, before.Spent after → ∀ a, Able after a → Able before a)
    (hdial : ∀ (machine : Machine) (a : α), (dial machine a).1 = .ok () → Able machine a) {machine : Machine}
    {last : ServerError} {list : List α} (h : (machine.dialAny dial last list).1 = .ok ()) :
    ∃ a ∈ list, Able machine a := by
  induction list generalizing machine last with
  | nil => cases h
  | cons a rest ih =>
    have hafter := hspent machine a
    unfold dialAny at h
    rcases hanswer : dial machine a with ⟨cause | ⟨⟩, after⟩ <;> rw [hanswer] at h hafter
    · obtain ⟨other, hmem, hother⟩ := ih h
      exact ⟨other, List.mem_cons_of_mem _ hmem, hable hafter other hother⟩
    · exact ⟨a, List.mem_cons_self .., hdial machine a (congrArg Prod.fst hanswer)⟩

theorem dialAny_of_exists (hable : ∀ {before after : Machine}, before.Spent after → ∀ a, Able before a → Able after a)
    (hdial : ∀ machine : Machine, machine.cluster.faults = [] → ∀ a, Able machine a → (dial machine a).1 = .ok ())
    {machine : Machine} (hfaultless : machine.cluster.faults = []) (last : ServerError) {list : List α} {a : α}
    (hmem : a ∈ list) (h : Able machine a) : (machine.dialAny dial last list).1 = .ok () := by
  induction list generalizing machine last with
  | nil => cases hmem
  | cons first rest ih =>
    have hafter := hspent machine first
    unfold dialAny
    cases hanswer : dial machine first with
    | mk answer after =>
      rw [hanswer] at hafter
      cases answer with
      | ok => rfl
      | error cause =>
        rcases List.mem_cons.mp hmem with rfl | hmem
        · have hok := hdial machine hfaultless a h
          rw [hanswer] at hok
          cases hok
        · exact ih (hafter.faultless hfaultless) cause hmem (hable hafter a h)

end

/-! ## Opening a connection -/

section
variable {machine : Machine} {c : Conninfo}

theorem answers_of_dialAt {endpoint : Endpoint} (h : (machine.dialAt c endpoint).1 = .ok ()) :
    machine.Answers c endpoint := by
  unfold dialAt at h
  split at h
  · cases h
  · next hlistening =>
    split at h
    · cases h
    · next hplain =>
      split at h
      · cases h
      · next hsendable =>
        rcases machine.cluster.accept_cases (c.databaseName machine.user) with
          ⟨hopens, opened, haccept, -, -⟩ | ⟨-, cause, opened, haccept, -⟩ <;> rw [haccept] at h
        · simp only at h
          split at h
          · cases h
          · next hunbound =>
            have hwritable : c.targetSessionAttrs ≠ .readOnly := Cluster.writable_of_probe h
            exact ⟨by simpa using hlistening, hplain, by simpa using hsendable, hunbound, hwritable, hopens.known⟩
        · cases h

theorem dialAt_of_answers (hfaultless : machine.cluster.faults = []) {endpoint : Endpoint}
    (h : machine.Answers c endpoint) : (machine.dialAt c endpoint).1 = .ok () := by
  rcases machine.cluster.accept_cases (c.databaseName machine.user) with ⟨_, opened, haccept, -, hfaults⟩ | ⟨hnot, _⟩
  · have hprobe := opened.probe_of_faultless (hfaults.trans hfaultless) (c.databaseName machine.user) h.writable
    simp [dialAt, h.listening, h.plain, h.sendable, h.unbound, haccept, hprobe]
  · exact absurd (Cluster.opens_of_faultless hfaultless h.known) hnot

theorem answersAt_of_dialHost {address : Address} (h : (machine.dialHost c address).1 = .ok ()) :
    machine.AnswersAt c address := by
  refine exists_of_dialAny (·.Answers c) (fun m => m.dialAt_spent c) ?_ (fun _ _ => answers_of_dialAt) h
  exact fun hspent _ => hspent.resembled.answers

theorem dialHost_of_answersAt (hfaultless : machine.cluster.faults = []) {address : Address}
    (h : machine.AnswersAt c address) : (machine.dialHost c address).1 = .ok () := by
  obtain ⟨endpoint, hmem, hanswers⟩ := h
  refine dialAny_of_exists (·.Answers c) (fun m => m.dialAt_spent c) ?_ ?_ hfaultless .unreachable hmem hanswers
  · exact fun hspent _ => hspent.resembles.answers
  · exact fun _ hfaultless _ => dialAt_of_answers hfaultless

theorem offers_of_dial (h : (machine.dial c).1 = .ok ()) : machine.Offers c := by
  unfold dial at h
  cases haddresses : c.addresses with
  | error cause =>
    rw [haddresses] at h
    cases h
  | ok addresses =>
    rw [haddresses] at h
    refine ⟨addresses, haddresses, exists_of_dialAny (·.AnswersAt c) (fun m => m.dialHost_spent c) ?_ ?_ h⟩
    · exact fun hspent _ => hspent.resembled.answersAt
    · exact fun _ _ => answersAt_of_dialHost

theorem dial_of_offers (hfaultless : machine.cluster.faults = []) (h : machine.Offers c) :
    (machine.dial c).1 = .ok () := by
  obtain ⟨addresses, haddresses, address, hmem, hanswers⟩ := h
  unfold dial
  rw [haddresses]
  refine dialAny_of_exists (·.AnswersAt c) (fun m => m.dialHost_spent c) ?_ ?_ hfaultless .misconfigured hmem hanswers
  · exact fun hspent _ => hspent.resembles.answersAt
  · exact fun _ hfaultless _ => dialHost_of_answersAt hfaultless

end

end Machine

end BridgeLedger
