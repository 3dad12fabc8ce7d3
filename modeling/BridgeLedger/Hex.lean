/-!
# Hexadecimal text

Two digits, of either case, denote one byte, the high half first. `Hex.decode?` reads whole bytes only: text with an
odd number of digits, or with any other character in it, denotes nothing. Changing the case of a letter changes no
digit's value, so the lower-case form stands for the same bytes. Text that comes as bytes is read byte by byte
(`Hex.decodeBytes?`).
-/

namespace BridgeLedger

def Hex.value? (c : Char) : Option Nat :=
  if '0' ≤ c ∧ c ≤ '9' then some (c.toNat - '0'.toNat)
  else if 'a' ≤ c ∧ c ≤ 'f' then some (c.toNat - 'a'.toNat + 10)
  else if 'A' ≤ c ∧ c ≤ 'F' then some (c.toNat - 'A'.toNat + 10)
  else none

def Hex.isDigit (c : Char) : Bool := (Hex.value? c).isSome

def Hex.decode? : List Char → Option (List UInt8)
  | [] => some []
  | [_] => none
  | high :: low :: rest => do
    let high ← Hex.value? high
    let low ← Hex.value? low
    return UInt8.ofNat (16 * high + low) :: (← Hex.decode? rest)

/-- Reads each byte as the character of that code, so that no byte beyond ASCII is a digit. -/
def Hex.decodeBytes? (bytes : List UInt8) : Option (List UInt8) := Hex.decode? (bytes.map Char.ofUInt8)

def Hex.lowercase (text : String) : String := text.map Char.toLower

/-! ## Case and value -/

section
variable {c : Char} (hc : 128 ≤ c.toNat)
include hc

theorem Hex.not_le_of_not_ascii {high : Char} (hhigh : high.toNat < 128) : ¬ c ≤ high :=
  fun hle => Nat.lt_irrefl _ (Nat.lt_of_le_of_lt (Nat.le_trans hc hle) hhigh)

theorem Hex.toLower_of_not_ascii : c.toLower = c := by
  unfold Char.toLower
  rw [dif_neg]
  intro hupper
  exact Hex.not_le_of_not_ascii hc (show 'Z'.toNat < 128 by decide) hupper.2

end

/-- What holds of the ASCII characters, one by one, and of all others, holds of every character. -/
theorem Hex.char_cases {P : Char → Prop} (htable : ∀ n < 128, P (Char.ofNat n))
    (hrest : ∀ c : Char, 128 ≤ c.toNat → P c) (c : Char) : P c := by
  by_cases hascii : c.toNat < 128
  · rw [← Char.ofNat_toNat c]
    exact htable c.toNat hascii
  · exact hrest c (Nat.not_lt.mp hascii)

theorem Hex.value?_toLower (c : Char) : Hex.value? c.toLower = Hex.value? c := by
  revert c
  apply Hex.char_cases
  · decide
  · intro c hc
    rw [Hex.toLower_of_not_ascii hc]

theorem Hex.decode?_map_toLower : ∀ text : List Char, Hex.decode? (text.map Char.toLower) = Hex.decode? text
  | [] => rfl
  | [_] => rfl
  | high :: low :: rest => by
    simp only [List.map_cons, Hex.decode?, Hex.value?_toLower, Hex.decode?_map_toLower rest]

end BridgeLedger
