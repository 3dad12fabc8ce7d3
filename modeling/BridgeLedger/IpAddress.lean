import BridgeLedger.Hex

/-!
# Network addresses

An address of version 4 is written as four decimal numbers below 256, without leading zeros. One of version 6 is
written as eight groups of up to four hexadecimal digits; `::` may stand once for a run of zero groups, and the last
two groups may be written like an address of version 4. The shortest form leaves out the first of the longest runs of
at least two zero groups.
-/

namespace BridgeLedger

inductive IpAddress where
  | v4 (octets : List Nat)
  | v6 (groups : List Nat)
deriving DecidableEq, Repr

namespace IpAddress

def octet? (text : List Char) : Option Nat :=
  if text.isEmpty || 3 < text.length || (text.head? == some '0' && 1 < text.length) then none
  else if text.all (·.isDigit) then
    let n := text.foldl (fun n c => 10 * n + (c.toNat - '0'.toNat)) 0
    if n < 256 then some n else none
  else none

def octets? (text : List Char) : Option (List Nat) := do
  let octets ← (text.splitOn '.').mapM octet?
  if octets.length = 4 then some octets else none

def group? (text : List Char) : Option Nat := do
  let digits ← text.mapM Hex.value?
  if digits.isEmpty || 4 < digits.length then none else some (digits.foldl (fun n d => 16 * n + d) 0)

/-- Groups between colons, of which the last may be an address of version 4. -/
def groups? (mixed : Bool) : List (List Char) → Option (List Nat)
  | [] => some []
  | [part] =>
    match group? part with
    | some group => some [group]
    | none =>
      if mixed then
        match octets? part with
        | some [a, b, c, d] => some [256 * a + b, 256 * c + d]
        | _ => none
      else none
  | part :: parts => do
    let group ← group? part
    return group :: (← groups? mixed parts)

/-- The groups in front of the first `::` and behind it, or all groups if there is none. -/
def halves (text : List Char) : List Char × Option (List Char) :=
  match text with
  | ':' :: ':' :: rest => ([], some rest)
  | c :: rest =>
    let (front, back) := halves rest
    (c :: front, back)
  | [] => ([], none)

def parts (text : List Char) : List (List Char) := if text.isEmpty then [] else text.splitOn ':'

def parseV6? (text : List Char) : Option (List Nat) :=
  match halves text with
  | (text, none) => do
    let groups ← groups? true (parts text)
    if groups.length = 8 then some groups else none
  | (front, some back) => do
    let front ← groups? false (parts front)
    let back ← groups? true (parts back)
    if front.length + back.length < 8 then
      some (front ++ List.replicate (8 - front.length - back.length) 0 ++ back)
    else none

def parse? (text : List Char) : Option IpAddress :=
  match octets? text with
  | some octets => some (.v4 octets)
  | none => (parseV6? text).map .v6

/-! ## Writing -/

def octetsText (octets : List Nat) : List Char := ['.'].intercalate (octets.map (Nat.toDigits 10))

def groupsText (groups : List Nat) : List Char := [':'].intercalate (groups.map (Nat.toDigits 16))

def zeroRun (groups : List Nat) : Nat := (groups.takeWhile (· == 0)).length

def shortest (groups : List Nat) : List Char :=
  let run (i : Nat) : Nat := zeroRun (groups.drop i)
  let longest := ((List.range groups.length).map run).foldl max 0
  match (List.range groups.length).find? (run · == longest) with
  | some i =>
    if longest ≤ 1 then groupsText groups
    else groupsText (groups.take i) ++ [':', ':'] ++ groupsText (groups.drop (i + longest))
  | none => groupsText groups

def text : IpAddress → String
  | v4 octets => String.ofList (octetsText octets)
  | v6 [0, 0, 0, 0, 0, 0xffff, high, low] =>
    String.ofList ("::ffff:".toList ++ octetsText [high / 256, high % 256, low / 256, low % 256])
  | v6 groups => String.ofList (shortest groups)

end IpAddress

end BridgeLedger
