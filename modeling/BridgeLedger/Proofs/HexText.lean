import BridgeLedger.Proofs.Journal
import BridgeLedger.Proofs.SoundTables
import Mathlib.Data.List.Forall2

/-!
# What a check of hexadecimal text decides

The check counts characters and decodes bytes, and yet it comes to a verdict that speaks of characters alone
(`HexVerdict`), whatever the text is: `checkHex_decides`. The form that it answers is the one way to write in lower case
the bytes that the text denotes (`Hex.encode`). So two texts have one form exactly if they denote the same bytes, and
exactly if they differ in the case of letters alone; and no two texts that are stored denote the same bytes:
`checkHex_canonical`.
-/

namespace BridgeLedger

/-! ## The first offender -/

def Hex.Digit (c : Char) : Prop := ('a' ≤ c ∧ c ≤ 'f') ∨ ('A' ≤ c ∧ c ≤ 'F') ∨ ('0' ≤ c ∧ c ≤ '9')

/-- The first character of the text that is no digit, and where it stands. -/
structure Hex.FirstForeign (text : List Char) (c : Char) (index : Nat) : Prop where
  here : text[index]? = some c
  foreign : ¬ Hex.Digit c
  before : ∀ i < index, ∀ d, text[i]? = some d → Hex.Digit d

theorem Hex.digit_iff {c : Char} : Hex.Digit c ↔ Hex.isDigit c = true := Hex.isDigit_iff.symm

section
variable {text : List Char} {c d : Char} {index : Nat}

theorem Hex.FirstForeign.cons (hd : Hex.Digit d) :
    Hex.FirstForeign (d :: text) c (index + 1) ↔ Hex.FirstForeign text c index := by
  constructor
  · intro h
    refine ⟨h.here, h.foreign, ?_⟩
    intro i hi e he
    exact h.before (i + 1) (Nat.succ_lt_succ hi) e he
  · intro h
    refine ⟨h.here, h.foreign, ?_⟩
    intro i hi e he
    cases i with
    | zero =>
      cases he
      exact hd
    | succ i => exact h.before i (Nat.lt_of_succ_lt_succ hi) e he

theorem Hex.firstForeign_iff : Hex.FirstForeign text c index ↔
    (text.find? fun c => !Hex.isDigit c) = some c ∧ (text.findIdx? fun c => !Hex.isDigit c) = some index := by
  induction text generalizing index with
  | nil =>
    constructor
    · intro h
      cases h.here
    · intro h
      cases h.1
  | cons d rest ih =>
    rw [List.find?_cons, List.findIdx?_cons]
    by_cases hd : Hex.isDigit d = true
    · have hdigit := Hex.digit_iff.mpr hd
      simp only [hd, Bool.not_true, Bool.false_eq_true, ite_false, Option.map_eq_some_iff]
      cases index with
      | zero =>
        constructor
        · intro h
          cases h.here
          exact absurd hdigit h.foreign
        · simp
      | succ index => simp [Hex.FirstForeign.cons hdigit, ih]
    · have hforeign : ¬ Hex.Digit d := fun h => hd (Hex.digit_iff.mp h)
      simp only [hd, Bool.not_false, ite_true, Option.some.injEq]
      constructor
      · intro h
        cases index with
        | zero => exact ⟨Option.some.inj h.here, rfl⟩
        | succ index => exact absurd (h.before 0 (Nat.succ_pos index) d rfl) hforeign
      · intro ⟨hc, hindex⟩
        subst hc hindex
        exact ⟨rfl, hforeign, fun i hi => absurd hi (Nat.not_lt_zero i)⟩

theorem Hex.find?_eq_none_of_digits (h : ∀ c ∈ text, Hex.Digit c) :
    (text.find? fun c => !Hex.isDigit c) = none := by
  rw [List.find?_eq_none]
  intro c hc
  simp [Hex.digit_iff.mp (h c hc)]

theorem Hex.exists_firstForeign (h : ¬ ∀ c ∈ text, Hex.Digit c) : ∃ c index, Hex.FirstForeign text c index := by
  induction text with
  | nil => exact absurd (fun c hc => nomatch hc) h
  | cons d rest ih =>
    by_cases hd : Hex.Digit d
    · have hrest : ¬ ∀ c ∈ rest, Hex.Digit c := fun hall => h (List.forall_mem_cons.mpr ⟨hd, hall⟩)
      obtain ⟨c, index, hfirst⟩ := ih hrest
      exact ⟨c, index + 1, (Hex.FirstForeign.cons hd).mpr hfirst⟩
    · exact ⟨d, 0, rfl, hd, fun i hi => absurd hi (Nat.not_lt_zero i)⟩

end

/-! ## The verdict -/

inductive HexVerdict (field value : String) (length : Nat) : Except FieldError String → Prop
  | length (differs : value.length ≠ length) :
      HexVerdict field value length (.error (.length field length value.length))
  | accepted (fits : value.length = length) (even : length % 2 = 0) (digits : ∀ c ∈ value.toList, Hex.Digit c) :
      HexVerdict field value length (.ok (Hex.lowercase value))
  | notHex {c : Char} {index : Nat} (fits : value.length = length)
      (first : Hex.FirstForeign value.toList c index) :
      HexVerdict field value length (.error (.notHex field c index))
  /-- No character is to blame for an odd number of digits. -/
  | odd (fits : value.length = length) (odd : length % 2 = 1) (digits : ∀ c ∈ value.toList, Hex.Digit c) :
      HexVerdict field value length (.error (.notHex field '\x00' 0))

theorem Hex.decodeBytes?_isSome (bytes : List UInt8) :
    (Hex.decodeBytes? bytes).isSome = true ↔ bytes.length % 2 = 0 ∧ ∀ b ∈ bytes, Hex.Digit (Char.ofUInt8 b) := by
  simp only [Hex.decodeBytes?, Hex.decode?_isSome, List.length_map, List.forall_mem_map, Hex.digit_iff]

section
variable {field value : String} {length : Nat}

theorem HexVerdict.checkHex_eq {answer : Except FieldError String} (h : HexVerdict field value length answer) :
    checkHex field value length = answer := by
  unfold checkHex
  rw [Hex.decodeBytes?_encode]
  cases h with
  | length differs => rw [if_pos differs]
  | accepted fits even digits =>
    have hdecode : (Hex.decode? value.toList).isSome = true := by
      rw [Hex.decode?_isSome, String.length_toList, fits]
      exact ⟨even, fun c hc => Hex.digit_iff.mp (digits c hc)⟩
    rw [if_neg (not_not_intro fits), if_pos hdecode]
  | notHex fits first =>
    obtain ⟨hfind, hindex⟩ := Hex.firstForeign_iff.mp first
    have hmem := List.mem_of_find?_eq_some hfind
    have hnone := Hex.decode?_eq_none hmem (by simpa using List.find?_some hfind)
    simp [fits, hnone, hfind, hindex]
  | odd fits odd digits =>
    have hdecode : ¬ (Hex.decode? value.toList).isSome = true := by
      rw [Hex.decode?_isSome, String.length_toList, fits]
      omega
    have hfind := Hex.find?_eq_none_of_digits digits
    have hindex : (value.toList.findIdx? fun c => !Hex.isDigit c) = none := by
      rw [List.findIdx?_eq_none_iff]
      intro c hc
      simp [Hex.digit_iff.mp (digits c hc)]
    simp [fits, hdecode, hfind, hindex]

theorem exists_hexVerdict : ∃ answer, HexVerdict field value length answer := by
  by_cases fits : value.length = length
  · by_cases digits : ∀ c ∈ value.toList, Hex.Digit c
    · rcases Nat.mod_two_eq_zero_or_one length with even | odd
      · exact ⟨_, .accepted fits even digits⟩
      · exact ⟨_, .odd fits odd digits⟩
    · obtain ⟨c, index, first⟩ := Hex.exists_firstForeign digits
      exact ⟨_, .notHex fits first⟩
  · exact ⟨_, .length fits⟩

theorem checkHex_verdict : HexVerdict field value length (checkHex field value length) := by
  obtain ⟨answer, h⟩ := @exists_hexVerdict field value length
  rw [h.checkHex_eq]
  exact h

end

/-- The check answers the verdict on the characters of the text, for every text and every length. It rests on a decoder
that takes exactly the even numbers of bytes that are all digits. For an even length, a NUL at the start is blamed only
where there is one. -/
theorem checkHex_decides (field value : String) (length : Nat) :
    (∀ answer, checkHex field value length = answer ↔ HexVerdict field value length answer) ∧
      (∀ bytes, (Hex.decodeBytes? bytes).isSome = true ↔
        bytes.length % 2 = 0 ∧ ∀ b ∈ bytes, Hex.Digit (Char.ofUInt8 b)) ∧
      (length % 2 = 0 → checkHex field value length = .error (.notHex field '\x00' 0) →
        value.toList.head? = some '\x00') := by
  refine ⟨?_, Hex.decodeBytes?_isSome, ?_⟩
  · intro answer
    constructor
    · intro h
      rw [← h]
      exact checkHex_verdict
    · exact HexVerdict.checkHex_eq
  · intro heven h
    have hverdict := @checkHex_verdict field value length
    rw [h] at hverdict
    cases hverdict with
    | notHex _ first =>
      rw [List.head?_eq_getElem?]
      exact first.here
    | odd _ hodd _ => omega

/-- Two characters that are four bytes: neither their number nor that of the bytes is at fault. -/
theorem accented_refused : (Utf8.encode "éé").length = 4 ∧
    checkHex "sig" "éé" 2 = .error (.notHex "sig" 'é' 0) ∧ checkHex "sig" "aé" 3 = .error (.length "sig" 3 2) := by
  refine ⟨by decide +kernel, ?_, ?_⟩
  · refine ((checkHex_decides "sig" "éé" 2).1 _).mpr (.notHex (by decide +kernel) ⟨by decide +kernel, ?_, ?_⟩)
    · unfold Hex.Digit
      decide
    · intro i hi
      exact absurd hi (Nat.not_lt_zero i)
  · exact ((checkHex_decides "sig" "aé" 3).1 _).mpr (.length (by decide +kernel))

/-! ## Writing bytes -/

def Hex.digit (n : Nat) : Char := if n < 10 then Char.ofNat ('0'.toNat + n) else Char.ofNat ('a'.toNat + (n - 10))

def Hex.encode : List UInt8 → List Char
  | [] => []
  | b :: rest => Hex.digit (b.toNat / 16) :: Hex.digit (b.toNat % 16) :: Hex.encode rest

theorem Hex.digit_of_value? {c : Char} {n : Nat} (hc : Hex.isNormal c = true) (hn : Hex.value? c = some n) :
    n < 16 ∧ Hex.digit n = c := by
  have htable : Hex.isNormal c = true → ∀ n ∈ Hex.value? c, n < 16 ∧ Hex.digit n = c := by
    apply Hex.char_cases (P := fun c => Hex.isNormal c = true → ∀ n ∈ Hex.value? c, n < 16 ∧ Hex.digit n = c)
    · decide
    · intro c hhigh h
      rw [Hex.isNormal_of_not_ascii hhigh] at h
      cases h
  exact htable hc n hn

theorem Hex.encode_of_decode? : ∀ {text : List Char} {bytes : List UInt8}, (∀ c ∈ text, Hex.isNormal c = true) →
    Hex.decode? text = some bytes → Hex.encode bytes = text
  | [], _, _, h => by
    cases h
    rfl
  | [_], _, _, h => by cases h
  | high :: low :: rest, bytes, hnormal, h => by
    obtain ⟨hhigh, hlow, hrest⟩ : Hex.isNormal high = true ∧ Hex.isNormal low = true ∧
        ∀ c ∈ rest, Hex.isNormal c = true := by simpa using hnormal
    simp only [Hex.decode?, bind, Option.bind_eq_some_iff] at h
    obtain ⟨m, hm, n, hn, tail, htail, hbytes⟩ := h
    cases hbytes
    obtain ⟨hm16, hhigh⟩ := Hex.digit_of_value? hhigh hm
    obtain ⟨hn16, hlow⟩ := Hex.digit_of_value? hlow hn
    have hbyte : (UInt8.ofNat (16 * m + n)).toNat = 16 * m + n := UInt8.toNat_ofNat_of_lt' (by show _ < 256; omega)
    have hdiv : (16 * m + n) / 16 = m := by omega
    have hmod : (16 * m + n) % 16 = n := by omega
    rw [Hex.encode, hbyte, hdiv, hmod, hhigh, hlow, Hex.encode_of_decode? hrest htail]

/-! ## The case of letters -/

def Hex.SameButCase (c d : Char) : Prop :=
  c = d ∨ (c.isUpper = true ∧ c.toLower = d) ∨ (d.isUpper = true ∧ d.toLower = c)

theorem Hex.toLower_toLower (c : Char) : c.toLower.toLower = c.toLower := by
  revert c
  apply Hex.char_cases
  · decide
  · intro c hc
    rw [Hex.toLower_of_not_ascii hc, Hex.toLower_of_not_ascii hc]

theorem Hex.toLower_cases (c : Char) :
    (c.isUpper = true ∧ c.toLower.toUpper = c) ∨ (c.isUpper = false ∧ c.toLower = c) := by
  revert c
  apply Hex.char_cases
  · decide
  · intro c hc
    have hZ := Hex.not_le_of_not_ascii hc (show 'Z'.toNat < 128 by decide)
    refine .inr ⟨?_, Hex.toLower_of_not_ascii hc⟩
    exact decide_eq_false fun h => hZ h.2

theorem Hex.sameButCase_iff {c d : Char} : Hex.SameButCase c d ↔ c.toLower = d.toLower := by
  constructor
  · intro h
    rcases h with h | ⟨_, h⟩ | ⟨_, h⟩
    · rw [h]
    · rw [← h, Hex.toLower_toLower]
    · rw [← h, Hex.toLower_toLower]
  · intro h
    rcases Hex.toLower_cases c with ⟨hc, hcup⟩ | ⟨hc, hcsame⟩
    · rcases Hex.toLower_cases d with ⟨hd, hdup⟩ | ⟨hd, hdsame⟩
      · exact .inl (by rw [← hcup, h, hdup])
      · exact .inr (.inl ⟨hc, h.trans hdsame⟩)
    · rcases Hex.toLower_cases d with ⟨hd, hdup⟩ | ⟨hd, hdsame⟩
      · exact .inr (.inr ⟨hd, h.symm.trans hcsame⟩)
      · exact .inl (by rw [← hcsame, h, hdsame])

theorem Hex.lowercase_eq_iff {a b : String} :
    Hex.lowercase a = Hex.lowercase b ↔ List.Forall₂ Hex.SameButCase a.toList b.toList := by
  have hsame : Hex.SameButCase = fun c d => c.toLower = d.toLower := by
    funext c d
    exact propext Hex.sameButCase_iff
  unfold Hex.lowercase
  rw [hsame, ← String.toList_inj, String.toList_map, String.toList_map, ← List.forall₂_eq_eq_eq,
    List.forall₂_map_left_iff, List.forall₂_map_right_iff]

/-! ## One form for the same bytes -/

theorem even_of_checkHex {field value normal : String} {length : Nat} (h : checkHex field value length = .ok normal) :
    length % 2 = 0 := by
  have hverdict := @checkHex_verdict field value length
  rw [h] at hverdict
  cases hverdict with
  | accepted _ even _ => exact even

theorem checkHex_denotes {field value normal : String} {length : Nat} (h : checkHex field value length = .ok normal) :
    ∃ bytes, Hex.decodeBytes? (Utf8.encode value) = some bytes ∧ Hex.decodeBytes? (Utf8.encode normal) = some bytes ∧
      normal = String.ofList (Hex.encode bytes) := by
  have heven := even_of_checkHex h
  obtain ⟨hform, rfl⟩ := (checkHex_ok_iff heven).mp h
  obtain ⟨hfits, hdigits⟩ := normalHex_lowercase_iff.mp hform
  have hsome : (Hex.decode? value.toList).isSome = true := by
    rw [Hex.decode?_isSome, String.length_toList, hfits]
    exact ⟨heven, hdigits⟩
  obtain ⟨bytes, hbytes⟩ := Option.isSome_iff_exists.mp hsome
  have hlower : Hex.decode? (Hex.lowercase value).toList = some bytes := by
    rw [Hex.lowercase, String.toList_map, Hex.decode?_map_toLower, hbytes]
  refine ⟨bytes, ?_, ?_, ?_⟩
  · rw [Hex.decodeBytes?_encode, hbytes]
  · rw [Hex.decodeBytes?_encode, hlower]
  · rw [Hex.encode_of_decode? hform.2 hlower, String.ofList_toList]

theorem Hex.eq_iff_of_encode {x y : String} {bytes bytes' : List UInt8}
    (hx : Hex.decodeBytes? (Utf8.encode x) = some bytes) (hy : Hex.decodeBytes? (Utf8.encode y) = some bytes')
    (hxform : x = String.ofList (Hex.encode bytes)) (hyform : y = String.ofList (Hex.encode bytes')) :
    x = y ↔ bytes = bytes' := by
  constructor
  · intro hsame
    rw [hsame, hy] at hx
    exact (Option.some.inj hx).symm
  · intro hsame
    rw [hxform, hyform, hsame]

/-! ## Stored text -/

def Ledger.hexTexts (ledger : Ledger) : List String :=
  ledger.depositRequests.map DepositRequest.evmAddress ++ ledger.moveTxs.map MoveTx.evmAddress ++
    ledger.moveTxs.map MoveTx.moveTxid ++ ledger.withdrawalSigs.map WithdrawalSig.bridgeFundTxid ++
    ledger.withdrawalSigs.map WithdrawalSig.sig

theorem Table.valid_of_rows {ρ : Type} {table : Option (Table ρ)} {clash : ρ → ρ → Bool} {valid : ρ → Prop}
    (hs : ∀ t, table = some t → t.Sound clash valid) {row : ρ} (hrow : row ∈ (table.map Table.rows).getD []) :
    valid row := by
  cases table with
  | none => cases hrow
  | some t => exact (hs t rfl).valid row hrow

theorem SoundDatabase.hexTexts_normal {db : Database} (hs : SoundDatabase db) {text : String}
    (h : text ∈ db.ledger.hexTexts) : ∃ length, length % 2 = 0 ∧ NormalHex length text := by
  simp only [Ledger.hexTexts, List.mem_append, List.mem_map] at h
  rcases h with (((⟨row, hrow, h⟩ | ⟨row, hrow, h⟩) | ⟨row, hrow, h⟩) | ⟨row, hrow, h⟩) | ⟨row, hrow, h⟩ <;> subst h
  · exact ⟨_, rfl, (Table.valid_of_rows hs.deposits hrow).evmAddress⟩
  · exact ⟨_, rfl, (Table.valid_of_rows hs.moves hrow).evmAddress⟩
  · exact ⟨_, rfl, (Table.valid_of_rows hs.moves hrow).moveTxid⟩
  · exact ⟨_, rfl, (Table.valid_of_rows hs.withdrawals hrow).bridgeFundTxid⟩
  · exact ⟨_, rfl, (Table.valid_of_rows hs.withdrawals hrow).sig⟩

theorem checkHex_of_normal {field value : String} {length : Nat} (heven : length % 2 = 0)
    (hnormal : NormalHex length value) : checkHex field value length = .ok value := by
  rw [checkHex_ok_iff heven, hnormal.lowercase_eq]
  exact ⟨hnormal, rfl⟩

theorem SoundDatabase.hexTexts_denote {db : Database} (hs : SoundDatabase db) {text : String}
    (h : text ∈ db.ledger.hexTexts) :
    ∃ bytes, Hex.decodeBytes? (Utf8.encode text) = some bytes ∧ text = String.ofList (Hex.encode bytes) := by
  obtain ⟨length, heven, hnormal⟩ := hs.hexTexts_normal h
  have hcheck : checkHex "" text length = .ok text := checkHex_of_normal heven hnormal
  obtain ⟨bytes, hbytes, _, hform⟩ := checkHex_denotes hcheck
  exact ⟨bytes, hbytes, hform⟩

/-- The form that the check answers is the lower-case form of the bytes that the text denotes. It denotes the same bytes
and passes the check as it is. The forms of two texts are the same exactly if these denote the same bytes, and that is
so exactly if the texts differ at most in the case of letters. So whatever has been stored in a run from a server
without tables, the same texts denote the same bytes, and different texts different ones. -/
theorem checkHex_canonical :
    (∀ (field field' a b x y : String) (length : Nat), checkHex field a length = .ok x →
        checkHex field' b length = .ok y →
        ∃ bytes bytes', Hex.decodeBytes? (Utf8.encode a) = some bytes ∧ Hex.decodeBytes? (Utf8.encode b) = some bytes' ∧
          (x = y ↔ bytes = bytes') ∧ (x = y ↔ List.Forall₂ Hex.SameButCase a.toList b.toList) ∧
          Hex.decodeBytes? (Utf8.encode x) = some bytes ∧ Hex.decodeBytes? (Utf8.encode y) = some bytes' ∧
          x = String.ofList (Hex.encode bytes) ∧ ∀ field, checkHex field x length = .ok x) ∧
      ∀ start : Session, start.server.database = {} → ∀ steps,
        ∀ v ∈ (start.run steps).2.server.database.ledger.hexTexts,
        ∀ w ∈ (start.run steps).2.server.database.ledger.hexTexts,
          ∃ bytes bytes', Hex.decodeBytes? (Utf8.encode v) = some bytes ∧
            Hex.decodeBytes? (Utf8.encode w) = some bytes' ∧ (v = w ↔ bytes = bytes') := by
  constructor
  · intro field field' a b x y length ha hb
    have heven := even_of_checkHex ha
    obtain ⟨hform, hx⟩ := (checkHex_ok_iff heven).mp ha
    obtain ⟨_, hy⟩ := (checkHex_ok_iff heven).mp hb
    obtain ⟨bytes, hbytes, hxbytes, hxform⟩ := checkHex_denotes ha
    obtain ⟨bytes', hbytes', hybytes, hyform⟩ := checkHex_denotes hb
    refine ⟨bytes, bytes', hbytes, hbytes', ?_, ?_, hxbytes, hybytes, hxform, ?_⟩
    · exact Hex.eq_iff_of_encode hxbytes hybytes hxform hyform
    · rw [hx, hy]
      exact Hex.lowercase_eq_iff
    · intro field
      exact checkHex_of_normal heven (hx ▸ hform)
  · intro start hempty steps v hv w hw
    have hs := Session.run_sound_of_empty hempty steps
    obtain ⟨bytes, hbytes, hvform⟩ := hs.hexTexts_denote hv
    obtain ⟨bytes', hbytes', hwform⟩ := hs.hexTexts_denote hw
    exact ⟨bytes, bytes', hbytes, hbytes', Hex.eq_iff_of_encode hbytes hbytes' hvform hwform⟩

def storedAddress : List Step :=
  [.provision, .operation (.recordDepositRequest "utxo" "recovery" (String.ofList (List.replicate 40 'B')))]

theorem mixedCase_denotes :
    checkHex "sig" "aB0F" 4 = .ok "ab0f" ∧ checkHex "sig" "Ab0f" 4 = .ok "ab0f" ∧
      (∃ bytes, Hex.decodeBytes? (Utf8.encode "aB0F") = some bytes ∧
        Hex.decodeBytes? (Utf8.encode "Ab0f") = some bytes ∧ "ab0f" = String.ofList (Hex.encode bytes)) ∧
      ∃ v ∈ (Session.run {} storedAddress).2.server.database.ledger.hexTexts,
        (Hex.decodeBytes? (Utf8.encode v)).isSome = true := by
  have ha : checkHex "sig" "aB0F" 4 = .ok "ab0f" := by decide +kernel
  have hb : checkHex "sig" "Ab0f" 4 = .ok "ab0f" := by decide +kernel
  have hstored : String.ofList (List.replicate 40 'b') ∈
      (Session.run {} storedAddress).2.server.database.ledger.hexTexts := by decide +kernel
  obtain ⟨hforms, hdistinct⟩ := checkHex_canonical
  obtain ⟨bytes, bytes', hbytes, hbytes', hsame, _, _, _, hform, _⟩ := hforms _ _ _ _ _ _ _ ha hb
  obtain ⟨_, _, hdenotes, _⟩ := hdistinct {} rfl storedAddress _ hstored _ hstored
  rw [← hsame.mp rfl] at hbytes'
  refine ⟨ha, hb, ⟨bytes, hbytes, hbytes', hform⟩, _, hstored, ?_⟩
  rw [hdenotes]
  rfl

end BridgeLedger
