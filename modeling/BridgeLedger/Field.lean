import BridgeLedger.Hex
import BridgeLedger.Utf8

/-!
# Field checks

Every column of the ledger is either free text, which may be anything non-empty that a text column can store, or
hexadecimal text of a fixed length. A check names the first offence; the hexadecimal checks answer the lower-case form
of the value, which is the form that the ledger keeps.
-/

namespace BridgeLedger

inductive FieldError where
  | empty (field : String)
  | nulCharacter (field : String) (index : Nat)
  | length (field : String) (expected got : Nat)
  | notHex (field : String) (character : Char) (index : Nat)
deriving DecidableEq, Repr

def FieldError.message : FieldError → String
  | .empty field => s!"'{field}' must not be empty"
  | .nulCharacter field index => s!"'{field}' contains a NUL character at position {index}"
  | .length field expected got => s!"'{field}' must be {expected} hex characters long, got {got}"
  | .notHex field character index => s!"'{field}' contains invalid hex character '{character}' at position {index}"

/-- Free text: not empty, and without the NUL character, which a text column cannot store. -/
def checkText (field value : String) : Except FieldError Unit :=
  if value.isEmpty then .error (.empty field)
  else
    match value.toList.findIdx? (· == '\x00') with
    | some index => .error (.nulCharacter field index)
    | none => .ok ()

/-- Hexadecimal text of `length` digits, answered in lower case. Its length and the place of an offence are counted in
characters, but it is decoded as the bytes of its UTF-8 form. Text that denotes no bytes although it holds digits only,
as an odd number of them does, is blamed on a NUL at the start. -/
def checkHex (field value : String) (length : Nat) : Except FieldError String :=
  if value.length ≠ length then .error (.length field length value.length)
  else if (Hex.decodeBytes? (Utf8.encode value)).isSome then .ok (Hex.lowercase value)
  else
    let foreign (c : Char) : Bool := !Hex.isDigit c
    .error (.notHex field ((value.toList.find? foreign).getD '\x00') ((value.toList.findIdx? foreign).getD 0))

def evmAddressLength : Nat := 40

def txidLength : Nat := 64

def signatureLength : Nat := 128

def checkEvmAddress (value : String) : Except FieldError String := checkHex "evm_address" value evmAddressLength

def checkTxid (field value : String) : Except FieldError String := checkHex field value txidLength

def checkSignature (value : String) : Except FieldError String := checkHex "sig" value signatureLength

end BridgeLedger
