import BridgeLedger.Maintenance

/-!
# The command line

Rehearses the maintenance program: it runs with the arguments, the home and the user that are really there, but on a
machine held in memory. On that machine stands nothing but the file with the settings, and a server with an empty
database `ledger`, which listens in `/run/postgresql` and on `localhost`. Nothing outside is changed.
-/

namespace BridgeLedger.Rehearsal

def socket : String := "/run/postgresql/.s.PGSQL.5432"

def loopback : IpAddress := .v4 [127, 0, 0, 1]

def machine (here home user : String) : Machine :=
  let tree := (FileTree.makeDirectories {} 0o755 [] here).2.makeAbove 0o755 [] socket
  { tree := tree.add (FileTree.names socket) .socket
    here := FileTree.names here
    home
    user
    hosts := [("localhost", [loopback])]
    listeners := [(loopback, 5432)]
    cluster := { databases := [("ledger", {})] } }

/-- The machine with a copy of the file at that path, if it can be read. -/
def withSettings (machine : Machine) (path : String) : IO Machine := do
  try
    let content ← IO.FS.readBinFile path
    let tree := machine.tree.makeAbove 0o755 machine.here path
    match tree.write machine.here path content.data.toList with
    | .ok tree => return { machine with tree }
    | .error _ => return machine
  catch _ => return machine

end BridgeLedger.Rehearsal

open BridgeLedger

def main (arguments : List String) : IO UInt32 := do
  let home := (← IO.getEnv "HOME").getD "/"
  let user := (← IO.getEnv "USER").getD "root"
  let machine := Rehearsal.machine (toString (← IO.currentDir)) home user
  let machine ← match Maintenance.settingsPath? home arguments with
    | none => pure machine
    | some path => Rehearsal.withSettings machine path
  let run := Maintenance.run machine arguments
  for line in run.stdout do
    IO.println line
  for line in run.stderr do
    IO.eprintln line
  return UInt32.ofNat run.code
