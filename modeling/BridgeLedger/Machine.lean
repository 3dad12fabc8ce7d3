import BridgeLedger.Cluster
import BridgeLedger.Conninfo
import BridgeLedger.FileTree

/-!
# The machine

A program finds a file tree on the machine it runs on, a user with a home, a network, and a cluster of databases that
listens at the sockets of the tree and at some addresses of the network.

A connection string names several addresses where the server may listen. They are tried in their order, each at every
endpoint to which it leads, and the first connection that can be opened and is of the kind that was asked for is taken;
if there is none, the last failure is reported. Options that are about time, or that leave the order of the addresses to
chance, make no difference.
-/

namespace BridgeLedger

structure Machine where
  tree : FileTree := {}
  here : Place := []
  home : String
  user : String
  now : Timestamp := ⟨0⟩
  /-- The addresses of the names that the network knows, in the order in which they are tried. -/
  hosts : List (String × List IpAddress) := []
  listeners : List (IpAddress × Nat) := []
  cluster : Cluster := {}
deriving DecidableEq

structure Address where
  host : HostName
  port : Nat
deriving DecidableEq, Repr

inductive Endpoint where
  | tcp (address : IpAddress) (port : Nat)
  | unix (directory : List UInt8) (port : Nat)
deriving DecidableEq, Repr

/-! ## Addresses -/

namespace Conninfo

/-- The host with that number. The address of a host, if there is one, stands for its name. -/
def host? (c : Conninfo) (i : Nat) : Option HostName :=
  match c.hostAddresses[i]? with
  | some address => some (.tcp address.text)
  | none => c.hosts[i]?

def port (c : Conninfo) (i : Nat) : Nat :=
  match c.ports[i]? with
  | some port => port
  | none => c.ports.headD 5432

/-- The addresses to be tried, unless the numbers of hosts, of their addresses and of ports do not go together. -/
def addresses (c : Conninfo) : Except ServerError (List Address) :=
  let count := max c.hosts.length c.hostAddresses.length
  if c.hosts ≠ [] ∧ c.hostAddresses ≠ [] ∧ c.hosts.length ≠ c.hostAddresses.length then .error .misconfigured
  else if 1 < c.ports.length ∧ c.ports.length ≠ count then .error .misconfigured
  else .ok ((List.range count).filterMap fun i => (c.host? i).map fun host => ⟨host, c.port i⟩)

def databaseName (c : Conninfo) (user : String) : String := c.dbname.getD (c.user.getD user)

def isSendable (c : Conninfo) : Bool :=
  [c.user, c.dbname, c.options, c.applicationName].all fun text => !(text.getD "").toList.contains '\x00'

end Conninfo

/-! ## Opening a connection -/

/-- Asks the server, over a connection to the database of that name, whether it is of the kind that is wanted. It is one
that allows writes. -/
def Cluster.probe (cluster : Cluster) (name : String) (wanted : TargetSessionAttrs) :
    Except ServerError Unit × Cluster :=
  if wanted = .any then (.ok (), cluster)
  else
    match cluster.visit name (·.send "SHOW transaction_read_only") with
    | ((.error cause, _), cluster) => (.error cause, cluster)
    | ((.ok (), _), cluster) => (if wanted = .readOnly then .error .unfit else .ok (), cluster)

namespace Machine

def lookUp (machine : Machine) (name : String) : List IpAddress :=
  match IpAddress.parse? name.toList with
  | some address => [address]
  | none => (machine.hosts.lookup name).getD []

def endpoints (machine : Machine) (address : Address) : List Endpoint :=
  match address.host with
  | .tcp name => (machine.lookUp name).map (.tcp · address.port)
  | .unix directory => [.unix directory address.port]

def hasServer (machine : Machine) : Endpoint → Bool
  | .tcp address port => machine.listeners.contains (address, port)
  | .unix directory port =>
    match Utf8.decode? directory with
    | none => false
    | some directory =>
      match machine.tree.resolve machine.here (FileTree.join directory s!".s.PGSQL.{port}") with
      | .error _ => false
      | .ok place =>
        match machine.tree.node? place with
        | some .socket => true
        | _ => false

/-- Opens a connection at the endpoint. The server neither encrypts nor binds. -/
def dialAt (machine : Machine) (c : Conninfo) (endpoint : Endpoint) : Except ServerError Unit × Machine :=
  if !machine.hasServer endpoint then (.error .unreachable, machine)
  else if c.sslMode = .require then (.error .unencrypted, machine)
  else if !c.isSendable then (.error .unsendable, machine)
  else
    match machine.cluster.accept (c.databaseName machine.user) with
    | (.error cause, cluster) => (.error cause, { machine with cluster })
    | (.ok (), cluster) =>
      if c.channelBinding = .require then (.error .unauthenticated, { machine with cluster })
      else
        let (answer, cluster) := cluster.probe (c.databaseName machine.user) c.targetSessionAttrs
        (answer, { machine with cluster })

/-- Dials one after the other, up to the first that answers; `last` is the failure before them. -/
def dialAny {α : Type} (dial : Machine → α → Except ServerError Unit × Machine) (machine : Machine)
    (last : ServerError) : List α → Except ServerError Unit × Machine
  | [] => (.error last, machine)
  | a :: rest =>
    match dial machine a with
    | (.ok (), machine) => (.ok (), machine)
    | (.error cause, machine) => machine.dialAny dial cause rest

def dialHost (c : Conninfo) (machine : Machine) (address : Address) : Except ServerError Unit × Machine :=
  machine.dialAny (·.dialAt c) .unreachable (machine.endpoints address)

def dial (machine : Machine) (c : Conninfo) : Except ServerError Unit × Machine :=
  match c.addresses with
  | .error cause => (.error cause, machine)
  | .ok addresses => machine.dialAny (dialHost c) .misconfigured addresses

def talk {α : Type} (machine : Machine) (c : Conninfo) (conversation : Server → α × Server) : α × Machine :=
  let (a, cluster) := machine.cluster.visit (c.databaseName machine.user) conversation
  (a, { machine with cluster })

end Machine

end BridgeLedger
