import BridgeLedger.Hex
import BridgeLedger.Utf8

/-!
# Percent-encoded text

In a percent-encoded text, `%` and two hexadecimal digits stand for one byte, and every other byte for itself, also a
`%` that no two digits follow.
-/

namespace BridgeLedger

def hexByte? (b : UInt8) : Option Nat := Hex.value? (Char.ofNat b.toNat)

/-- The bytes that percent-encoded bytes stand for. -/
def percentDecode : List UInt8 → List UInt8
  | 0x25 :: high :: low :: rest =>
    match hexByte? high, hexByte? low with
    | some h, some l => UInt8.ofNat (16 * h + l) :: percentDecode rest
    | _, _ => 0x25 :: percentDecode (high :: low :: rest)
  | b :: rest => b :: percentDecode rest
  | [] => []
termination_by structural text => text

def percentBytes (text : List Char) : List UInt8 := percentDecode (Utf8.encode (String.ofList text))

def percentText? (text : List Char) : Option String := Utf8.decode? (percentBytes text)

end BridgeLedger
