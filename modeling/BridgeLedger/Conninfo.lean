import BridgeLedger.IpAddress
import BridgeLedger.Percent

/-!
# Connection strings

A connection string says where the server is and how to connect to it. It is either a URL, which names the credentials,
the hosts with their ports, the database and further options in that order, or a list of options `key = value`. Both
forms set the same options: a later one replaces an earlier one, but hosts, addresses and ports add up.
-/

namespace BridgeLedger

/-- Where a server listens: a name of the network, or the directory of a socket. -/
inductive HostName where
  | tcp (name : String)
  | unix (directory : List UInt8)
deriving DecidableEq, Repr

inductive SslMode where
  | disable | prefer | require
deriving DecidableEq, Repr

inductive SslNegotiation where
  | postgres | direct
deriving DecidableEq, Repr

inductive TargetSessionAttrs where
  | any | readWrite | readOnly
deriving DecidableEq, Repr

inductive ChannelBinding where
  | disable | prefer | require
deriving DecidableEq, Repr

inductive LoadBalanceHosts where
  | disable | random
deriving DecidableEq, Repr

/-- The options of a connection. Times are in seconds. -/
structure Conninfo where
  user : Option String := none
  password : Option (List UInt8) := none
  dbname : Option String := none
  options : Option String := none
  applicationName : Option String := none
  hosts : List HostName := []
  hostAddresses : List IpAddress := []
  ports : List Nat := []
  connectTimeout : Option Nat := none
  tcpUserTimeout : Option Nat := none
  keepalives : Bool := true
  keepalivesIdle : Nat := 7200
  keepalivesInterval : Option Nat := none
  keepalivesRetries : Option Nat := none
  sslMode : SslMode := .prefer
  sslNegotiation : SslNegotiation := .postgres
  targetSessionAttrs : TargetSessionAttrs := .any
  channelBinding : ChannelBinding := .prefer
  loadBalanceHosts : LoadBalanceHosts := .disable
deriving DecidableEq, Repr

namespace Conninfo

/-! ## Values of options -/

def digits? (text : List Char) : Option Nat :=
  if text.isEmpty || !text.all (·.isDigit) then none
  else some (text.foldl (fun n c => 10 * n + (c.toNat - '0'.toNat)) 0)

/-- A number of so many binary digits at most, perhaps after a plus sign. -/
def natural? (bits : Nat) (text : List Char) : Option Nat :=
  (match text with
    | '+' :: text => digits? text
    | text => digits? text).filter (· < Nat.pow 2 bits)

def signed? (text : List Char) : Option Int :=
  match text with
  | '-' :: text => ((digits? text).filter (· ≤ Nat.pow 2 63)).map fun n => -(n : Int)
  | text => (natural? 63 text).map fun n => (n : Int)

def port? (text : List Char) : Option Nat :=
  if text.isEmpty then some 5432 else natural? 16 text

def withHost (c : Conninfo) (text : List Char) : Conninfo :=
  match text with
  | '/' :: _ => { c with hosts := c.hosts ++ [.unix (Utf8.encode (String.ofList text))] }
  | _ => { c with hosts := c.hosts ++ [.tcp (String.ofList text)] }

/-- Sets a number of seconds, unless it is not positive. -/
def seconds? (c : Conninfo) (text : List Char) (set : Nat → Conninfo) : Option Conninfo :=
  (signed? text).map fun n => if 0 < n then set n.toNat else c

def set? (c : Conninfo) (key : String) (text : List Char) : Option Conninfo :=
  let value := String.ofList text
  match key with
  | "user" => some { c with user := some value }
  | "password" => some { c with password := some (Utf8.encode value) }
  | "dbname" => some { c with dbname := some value }
  | "options" => some { c with options := some value }
  | "application_name" => some { c with applicationName := some value }
  | "host" => some ((text.splitOn ',').foldl withHost c)
  | "hostaddr" => do
    let addresses ← (text.splitOn ',').mapM IpAddress.parse?
    return { c with hostAddresses := c.hostAddresses ++ addresses }
  | "port" => do
    let ports ← (text.splitOn ',').mapM port?
    return { c with ports := c.ports ++ ports }
  | "connect_timeout" => c.seconds? text fun n => { c with connectTimeout := some n }
  | "tcp_user_timeout" => c.seconds? text fun n => { c with tcpUserTimeout := some n }
  | "keepalives" => (natural? 64 text).map fun n => { c with keepalives := n != 0 }
  | "keepalives_idle" => c.seconds? text fun n => { c with keepalivesIdle := n }
  | "keepalives_interval" => c.seconds? text fun n => { c with keepalivesInterval := some n }
  | "keepalives_retries" => (natural? 32 text).map fun n => { c with keepalivesRetries := some n }
  | "sslmode" =>
    match value with
    | "disable" => some { c with sslMode := .disable }
    | "prefer" => some { c with sslMode := .prefer }
    | "require" => some { c with sslMode := .require }
    | _ => none
  | "sslnegotiation" =>
    match value with
    | "postgres" => some { c with sslNegotiation := .postgres }
    | "direct" => some { c with sslNegotiation := .direct }
    | _ => none
  | "target_session_attrs" =>
    match value with
    | "any" => some { c with targetSessionAttrs := .any }
    | "read-write" => some { c with targetSessionAttrs := .readWrite }
    | "read-only" => some { c with targetSessionAttrs := .readOnly }
    | _ => none
  | "channel_binding" =>
    match value with
    | "disable" => some { c with channelBinding := .disable }
    | "prefer" => some { c with channelBinding := .prefer }
    | "require" => some { c with channelBinding := .require }
    | _ => none
  | "load_balance_hosts" =>
    match value with
    | "disable" => some { c with loadBalanceHosts := .disable }
    | "random" => some { c with loadBalanceHosts := .random }
    | _ => none
  | _ => none

/-! ## Lists of options -/

def isSpace (c : Char) : Bool :=
  let n := c.toNat
  (9 ≤ n && n ≤ 13) || (0x2000 ≤ n && n ≤ 0x200a) ||
    [0x20, 0x85, 0xa0, 0x1680, 0x2028, 0x2029, 0x202f, 0x205f, 0x3000].contains n

/-- A value up to the next space, and what follows it. A backslash gives the next character literally. -/
def plainValue : List Char → List Char × List Char
  | [] => ([], [])
  | '\\' :: c :: rest =>
    let (value, after) := plainValue rest
    (c :: value, after)
  | ['\\'] => ([], [])
  | c :: rest =>
    if isSpace c then ([], c :: rest)
    else
      let (value, after) := plainValue rest
      (c :: value, after)

/-- A value up to the closing quote, and what follows it. A backslash gives the next character literally. -/
def quotedValue? : List Char → Option (List Char × List Char)
  | [] => none
  | '\'' :: rest => some ([], rest)
  | '\\' :: c :: rest => (quotedValue? rest).map fun (value, after) => (c :: value, after)
  | ['\\'] => none
  | c :: rest => (quotedValue? rest).map fun (value, after) => (c :: value, after)

def value? : List Char → Option (List Char × List Char)
  | '\'' :: rest => quotedValue? rest
  | text =>
    let (value, after) := plainValue text
    if value.isEmpty then none else some (value, after)

/-- Sets the options that the text lists, of which there are at most `fuel`. An empty key ends the list. -/
def readList : (fuel : Nat) → Conninfo → List Char → Option Conninfo
  | 0, c, _ => some c
  | fuel + 1, c, text =>
    let text := text.dropWhile isSpace
    let isKey (x : Char) : Bool := !isSpace x && x != '='
    let key := text.takeWhile isKey
    if key.isEmpty then some c
    else
      match (text.dropWhile isKey).dropWhile isSpace with
      | '=' :: rest => do
        let (value, after) ← value? (rest.dropWhile isSpace)
        readList fuel (← c.set? (String.ofList key) value) after
      | _ => none

/-! ## URLs -/

def before? (stops : List Char) (text : List Char) : Option (List Char × List Char) :=
  match text.dropWhile (!stops.contains ·) with
  | [] => none
  | rest => some (text.takeWhile (!stops.contains ·), rest)

def upTo (stops : List Char) (text : List Char) : List Char × List Char :=
  (before? stops text).getD (text, [])

def withUrlHost? (c : Conninfo) (text : List Char) : Option Conninfo :=
  let bytes := percentBytes text
  if bytes.head? == some 0x2f then some { c with hosts := c.hosts ++ [.unix bytes] }
  else (Utf8.decode? bytes).map fun name => { c with hosts := c.hosts ++ [.tcp name] }

def withCredentials? (c : Conninfo) (text : List Char) : Option Conninfo := do
  let (user, rest) := upTo [':'] text
  let user ← percentText? user
  return { c with
    user := some user
    password := if rest.isEmpty then c.password else some (percentBytes (rest.drop 1)) }

/-- Adds one host with its port. Brackets keep the colons of an address apart from that before the port. -/
def withHostAndPort? (c : Conninfo) (text : List Char) : Option Conninfo := do
  let (host, port) ← match text with
    | '[' :: rest =>
      match before? [']'] rest with
      | some (host, [']']) => some (host, none)
      | some (host, ']' :: ':' :: port) => some (host, some port)
      | _ => none
    | text =>
      match before? [':'] text with
      | some (host, rest) => some (host, some (rest.drop 1))
      | none => some (text, none)
  let c ← c.withUrlHost? host
  let port ← percentText? (port.getD "5432".toList)
  c.set? "port" port.toList

def readParameters : (fuel : Nat) → Conninfo → List Char → Option Conninfo
  | 0, c, _ => some c
  | fuel + 1, c, text =>
    if text.isEmpty then some c
    else do
      let (key, rest) ← before? ['='] text
      let key ← percentText? key
      let (value, rest) := upTo ['&'] (rest.drop 1)
      let c ← if key = "host" then c.withUrlHost? value else c.set? key (← percentText? value).toList
      readParameters fuel c (rest.drop 1)

def readUrl (text : List Char) : Option Conninfo := do
  let (c, text) ← match before? ['@'] text with
    | some (credentials, rest) => (withCredentials? {} credentials).map (·, rest.drop 1)
    | none => some ({}, text)
  let (hosts, text) := upTo ['/', '?'] text
  let c ← if hosts.isEmpty then some c else (hosts.splitOn ',').foldlM withHostAndPort? c
  let (c, text) ← match text with
    | '/' :: rest =>
      let (dbname, rest) := upTo ['?'] rest
      if dbname.isEmpty then some (c, rest)
      else (percentText? dbname).map fun dbname => ({ c with dbname := some dbname }, rest)
    | text => some (c, text)
  match text with
  | '?' :: rest => readParameters rest.length c rest
  | _ => some c

def after? (start text : List Char) : Option (List Char) :=
  if start.isPrefixOf text then some (text.drop start.length) else none

def parse? (text : String) : Option Conninfo :=
  match (after? "postgres://".toList text.toList).or (after? "postgresql://".toList text.toList) with
  | some rest => readUrl rest
  | none => readList text.length {} text.toList

end Conninfo

end BridgeLedger
