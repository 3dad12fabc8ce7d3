import BridgeLedger.Operation

/-!
# The forms of stored text

A text column holds text that is not empty and has no NUL character (`Storable`). A hexadecimal column holds a fixed
number of digits, all in lower case (`NormalHex`). The checks of the fields decide these forms: a text passes if it is
storable, and hexadecimal text if its lower-case form is normal (`checkText_ok_iff`, `checkHex_ok_iff`).
-/

namespace BridgeLedger

/-! ## Digits -/

def Hex.isNormal (c : Char) : Bool := ('0' ≤ c && c ≤ '9') || ('a' ≤ c && c ≤ 'f')

section
variable {c : Char} (hc : 128 ≤ c.toNat)
include hc

theorem Hex.isDigit_of_not_ascii : Hex.isDigit c = false := by
  have h9 := Hex.not_le_of_not_ascii hc (show '9'.toNat < 128 by decide)
  have hf := Hex.not_le_of_not_ascii hc (show 'f'.toNat < 128 by decide)
  have hF := Hex.not_le_of_not_ascii hc (show 'F'.toNat < 128 by decide)
  simp [Hex.isDigit, Hex.value?, h9, hf, hF]

theorem Hex.isNormal_of_not_ascii : Hex.isNormal c = false := by
  have h9 := Hex.not_le_of_not_ascii hc (show '9'.toNat < 128 by decide)
  have hf := Hex.not_le_of_not_ascii hc (show 'f'.toNat < 128 by decide)
  simp [Hex.isNormal, h9, hf]

end

theorem Hex.isDigit_iff {c : Char} :
    Hex.isDigit c = true ↔ ('a' ≤ c ∧ c ≤ 'f') ∨ ('A' ≤ c ∧ c ≤ 'F') ∨ ('0' ≤ c ∧ c ≤ '9') := by
  unfold Hex.isDigit Hex.value?
  by_cases hdecimal : '0' ≤ c ∧ c ≤ '9'
  · simp [hdecimal]
  · by_cases hlower : 'a' ≤ c ∧ c ≤ 'f'
    · simp [hdecimal, hlower]
    · by_cases hupper : 'A' ≤ c ∧ c ≤ 'F' <;> simp [hdecimal, hlower, hupper]

theorem Hex.isNormal_toLower (c : Char) : Hex.isNormal c.toLower = Hex.isDigit c := by
  revert c
  apply Hex.char_cases
  · decide
  · intro c hc
    rw [Hex.toLower_of_not_ascii hc, Hex.isNormal_of_not_ascii hc, Hex.isDigit_of_not_ascii hc]

theorem Hex.toLower_of_isNormal {c : Char} : Hex.isNormal c = true → c.toLower = c := by
  revert c
  apply Hex.char_cases
  · decide
  · intro c hc _
    exact Hex.toLower_of_not_ascii hc

theorem Hex.decode?_isSome : ∀ text : List Char,
    (Hex.decode? text).isSome = true ↔ text.length % 2 = 0 ∧ ∀ c ∈ text, Hex.isDigit c = true
  | [] => by simp [Hex.decode?]
  | [_] => by simp [Hex.decode?]
  | high :: low :: rest => by
    have ih := Hex.decode?_isSome rest
    have hlength : (high :: low :: rest).length % 2 = rest.length % 2 := Nat.add_mod_right _ 2
    rw [hlength, List.forall_mem_cons, List.forall_mem_cons, and_left_comm,
      and_left_comm (a := rest.length % 2 = 0), ← ih]
    simp only [Hex.decode?, Hex.isDigit]
    cases Hex.value? high <;> cases Hex.value? low <;> cases Hex.decode? rest <;> simp

theorem Hex.decode?_eq_none {text : List Char} {c : Char} (hc : c ∈ text) (hforeign : Hex.isDigit c = false) :
    Hex.decode? text = none := by
  rw [← Option.not_isSome_iff_eq_none, Hex.decode?_isSome]
  rintro ⟨_, hdigits⟩
  rw [hdigits c hc] at hforeign
  cases hforeign

/-! ## Bytes and characters -/

/-- The bytes of a text denote what its characters denote: the bytes of its ASCII characters are their codes, and with
any other character neither denotes anything. -/
theorem Hex.decodeBytes?_encode (text : String) :
    Hex.decodeBytes? (Utf8.encode text) = Hex.decode? text.toList := by
  unfold Hex.decodeBytes?
  rw [Utf8.encode_eq_flatMap]
  by_cases hascii : ∀ c ∈ text.toList, c.toNat < 128
  · have hsame : ∀ c ∈ text.toList, (Char.ofUInt8 ∘ Char.toUInt8) c = id c :=
      fun c hc => Utf8.ofUInt8_toUInt8 (hascii c hc)
    rw [Utf8.flatMap_encodeChar_of_ascii hascii, List.map_map, List.map_congr_left hsame, List.map_id]
  · obtain ⟨c, hc, hhigh⟩ : ∃ c ∈ text.toList, 128 ≤ c.toNat := by simpa using hascii
    obtain ⟨b, hb, hbyte⟩ := Utf8.exists_high_of_not_ascii hhigh
    have hbytes : Hex.decode? ((text.toList.flatMap String.utf8EncodeChar).map Char.ofUInt8) = none := by
      apply Hex.decode?_eq_none (c := Char.ofUInt8 b) _ (Hex.isDigit_of_not_ascii hbyte)
      exact List.mem_map_of_mem (List.mem_flatMap_of_mem hc hb)
    rw [hbytes, Hex.decode?_eq_none hc (Hex.isDigit_of_not_ascii hhigh)]

/-! ## Columns -/

def Storable (text : String) : Prop := text ≠ "" ∧ '\x00' ∉ text.toList

def NormalHex (length : Nat) (text : String) : Prop :=
  text.length = length ∧ ∀ c ∈ text.toList, Hex.isNormal c = true

theorem NormalHex.lowercase_eq {length : Nat} {text : String} (h : NormalHex length text) :
    Hex.lowercase text = text := by
  unfold Hex.lowercase
  rw [← String.toList_inj, String.toList_map]
  have hsame : ∀ c ∈ text.toList, c.toLower = id c := fun c hc => Hex.toLower_of_isNormal (h.2 c hc)
  rw [List.map_congr_left hsame, List.map_id]

theorem checkText_ok_iff {field value : String} {u : Unit} : checkText field value = .ok u ↔ Storable value := by
  unfold checkText Storable
  by_cases hempty : value = ""
  · simp [hempty]
  · have hne : value.isEmpty = false := by simpa using hempty
    cases hnul : value.toList.findIdx? (· == '\x00') with
    | none =>
      have hnot : '\x00' ∉ value.toList := fun hmem => by simpa using List.findIdx?_eq_none_iff.mp hnul _ hmem
      simp [hne, hempty, hnot]
    | some index =>
      have hmem : '\x00' ∈ value.toList := by
        obtain ⟨hlt, hindex, _⟩ := List.findIdx?_eq_some_iff_getElem.mp hnul
        rw [← beq_iff_eq.mp hindex]
        exact List.getElem_mem hlt
      simp [hne, hmem]

theorem normalHex_lowercase_iff {length : Nat} {value : String} :
    NormalHex length (Hex.lowercase value) ↔ value.length = length ∧ ∀ c ∈ value.toList, Hex.isDigit c = true := by
  simp only [NormalHex, Hex.lowercase, String.length_map, String.toList_map, List.forall_mem_map, Hex.isNormal_toLower]

theorem checkHex_ok_iff {field value normal : String} {length : Nat} (heven : length % 2 = 0) :
    checkHex field value length = .ok normal ↔
      NormalHex length (Hex.lowercase value) ∧ normal = Hex.lowercase value := by
  rw [normalHex_lowercase_iff]
  unfold checkHex
  by_cases hlength : value.length = length
  · have hdecode : (Hex.decodeBytes? (Utf8.encode value)).isSome = true ↔
        ∀ c ∈ value.toList, Hex.isDigit c = true := by
      rw [Hex.decodeBytes?_encode, Hex.decode?_isSome, String.length_toList, hlength]
      exact and_iff_right heven
    rw [if_neg (not_not_intro hlength), ← hdecode]
    cases (Hex.decodeBytes? (Utf8.encode value)).isSome with
    | true =>
      constructor
      · exact fun hok => ⟨⟨hlength, rfl⟩, (Except.ok.inj hok).symm⟩
      · rintro ⟨_, rfl⟩
        rfl
    | false => simp
  · simp [hlength]

theorem checkEvmAddress_ok_iff {value normal : String} : checkEvmAddress value = .ok normal ↔
    NormalHex evmAddressLength (Hex.lowercase value) ∧ normal = Hex.lowercase value := checkHex_ok_iff rfl

theorem checkTxid_ok_iff {field value normal : String} : checkTxid field value = .ok normal ↔
    NormalHex txidLength (Hex.lowercase value) ∧ normal = Hex.lowercase value := checkHex_ok_iff rfl

theorem checkSignature_ok_iff {value normal : String} : checkSignature value = .ok normal ↔
    NormalHex signatureLength (Hex.lowercase value) ∧ normal = Hex.lowercase value := checkHex_ok_iff rfl

theorem Storable.ne_of_checkText {field value column : String} {cause : FieldError} (hc : Storable column)
    (hcheck : checkText field value = .error cause) : column ≠ value := by
  rintro rfl
  have hok : checkText field column = .ok () := checkText_ok_iff.mpr hc
  rw [hok] at hcheck
  cases hcheck

theorem NormalHex.ne_of_checkHex {field value column : String} {length : Nat} {cause : FieldError}
    (heven : length % 2 = 0) (hc : NormalHex length column) (hcheck : checkHex field value length = .error cause) :
    column ≠ Hex.lowercase value := by
  rintro rfl
  have hok : checkHex field value length = .ok (Hex.lowercase value) := (checkHex_ok_iff heven).mpr ⟨hc, rfl⟩
  rw [hok] at hcheck
  cases hcheck

/-! ## Records -/

theorem bind_ok_iff {ε α β : Type} {first : Except ε α} {next : α → Except ε β} {b : β} :
    first.bind next = .ok b ↔ ∃ a, first = .ok a ∧ next a = .ok b := by
  cases first <;> simp [Except.bind]

theorem Plan.checkDeposit_ok_iff {utxo recovery evm normal : String} :
    Plan.checkDeposit utxo recovery evm = .ok normal ↔
      Storable utxo ∧ Storable recovery ∧ NormalHex evmAddressLength (Hex.lowercase evm) ∧
        normal = Hex.lowercase evm := by
  simp only [Plan.checkDeposit, bind, bind_ok_iff, checkText_ok_iff, checkEvmAddress_ok_iff, exists_const]

theorem Plan.checkMove_ok_iff {utxo recovery evm txid : String} {normal : String × String} :
    Plan.checkMove utxo recovery evm txid = .ok normal ↔
      Storable utxo ∧ Storable recovery ∧ NormalHex evmAddressLength (Hex.lowercase evm) ∧
        NormalHex txidLength (Hex.lowercase txid) ∧ normal = (Hex.lowercase evm, Hex.lowercase txid) := by
  simp only [Plan.checkMove, bind, bind_ok_iff, Plan.checkDeposit_ok_iff, checkTxid_ok_iff, pure, Except.pure,
    Except.ok.injEq]
  constructor
  · rintro ⟨_, ⟨hutxo, hrecovery, hevm, rfl⟩, _, ⟨htxid, rfl⟩, rfl⟩
    exact ⟨hutxo, hrecovery, hevm, htxid, rfl⟩
  · rintro ⟨hutxo, hrecovery, hevm, htxid, rfl⟩
    exact ⟨_, ⟨hutxo, hrecovery, hevm, rfl⟩, _, ⟨htxid, rfl⟩, rfl⟩

theorem Plan.checkWithdrawal_ok_iff {txid sig : String} {normal : String × String} :
    Plan.checkWithdrawal txid sig = .ok normal ↔
      NormalHex txidLength (Hex.lowercase txid) ∧ NormalHex signatureLength (Hex.lowercase sig) ∧
        normal = (Hex.lowercase txid, Hex.lowercase sig) := by
  simp only [Plan.checkWithdrawal, bind, bind_ok_iff, checkTxid_ok_iff, checkSignature_ok_iff, pure, Except.pure,
    Except.ok.injEq]
  constructor
  · rintro ⟨_, ⟨htxid, rfl⟩, _, ⟨hsig, rfl⟩, rfl⟩
    exact ⟨htxid, hsig, rfl⟩
  · rintro ⟨htxid, hsig, rfl⟩
    exact ⟨_, ⟨htxid, rfl⟩, _, ⟨hsig, rfl⟩, rfl⟩

end BridgeLedger
