import BridgeLedger.Proofs.LostConnection
import Mathlib.Data.List.Forall2

/-!
# The checks of the columns

The fields of a record are checked twice: before it is sent, and by the checks that the schema declares for the columns
(`TableName.Admits`). Both let the same records through, apart from a NUL character, which no text column can hold. What
is then sent, with hexadecimal text in lower case, passes the checks of the columns as well:
`Operation.checks_match_columns`.
-/

namespace BridgeLedger

/-! ## Patterns -/

theorem matches_hexDigit {text : List Char} :
    Pattern.hexDigit.Matches text ↔ ∃ c, text = [c] ∧ Hex.isDigit c = true := by
  constructor
  · intro h
    cases h with
    | oneOf within => exact ⟨_, rfl, Hex.isDigit_iff.mpr (by simpa using within)⟩
  · rintro ⟨c, rfl, hdigit⟩
    exact .oneOf (by simpa using Hex.isDigit_iff.mp hdigit)

theorem matches_hexDigits {n : Nat} {text : List Char} :
    (Pattern.times .hexDigit n).Matches text ↔ text.length = n ∧ ∀ c ∈ text, Hex.isDigit c = true := by
  induction n generalizing text with
  | zero =>
    constructor
    · intro h
      cases h
      exact ⟨rfl, fun _ hmem => nomatch hmem⟩
    · rintro ⟨hlength, _⟩
      rw [List.eq_nil_of_length_eq_zero hlength]
      exact .zero _
  | succ n ih =>
    constructor
    · intro h
      cases h with
      | succ once more =>
        obtain ⟨c, rfl, hdigit⟩ := matches_hexDigit.mp once
        obtain ⟨rfl, hrest⟩ := ih.mp more
        exact ⟨rfl, List.forall_mem_cons.mpr ⟨hdigit, hrest⟩⟩
    · rintro ⟨hlength, hdigits⟩
      obtain ⟨c, rest, rfl⟩ := List.exists_cons_of_length_eq_add_one hlength
      obtain ⟨hdigit, hrest⟩ := List.forall_mem_cons.mp hdigits
      have hmore := ih.mpr ⟨Nat.succ.inj hlength, hrest⟩
      exact .succ (matches_hexDigit.mpr ⟨c, rfl, hdigit⟩) hmore

/-! ## Checks -/

namespace Check

/-- A column with the check can hold the value, and the check lets the value pass. -/
def Stores (value : String) (check : Check) : Prop := '\x00' ∉ value.toList ∧ check.Holds value

def normal (value : String) : Check → String
  | notEmpty => value
  | hexDigits _ => Hex.lowercase value

theorem notEmpty_stores {value : String} : notEmpty.Stores value ↔ Storable value := and_comm

section
variable {value : String} {length : Nat}

theorem hexDigits_holds : (hexDigits length).Holds value ↔ NormalHex length (Hex.lowercase value) := by
  rw [normalHex_lowercase_iff, ← String.length_toList]
  exact matches_hexDigits

theorem hexDigits_stores : (hexDigits length).Stores value ↔ NormalHex length (Hex.lowercase value) := by
  unfold Stores
  rw [hexDigits_holds]
  refine and_iff_right_of_imp fun h hnul => ?_
  have hdigit : Hex.isDigit '\x00' = true := (normalHex_lowercase_iff.mp h).2 _ hnul
  cases hdigit

end

theorem Stores.normal_stores {value : String} {check : Check} (h : check.Stores value) :
    check.Stores (check.normal value) := by
  cases check with
  | notEmpty => exact h
  | hexDigits length =>
    rw [hexDigits_stores] at h
    show (hexDigits length).Stores (Hex.lowercase value)
    rw [hexDigits_stores, h.lowercase_eq]
    exact h

theorem Stores.normal {value : String} {check : Check} (h : check.Stores value) : check.Holds (check.normal value) :=
  h.normal_stores.2

end Check

/-! ## Tables -/

namespace TableName

def Admits (table : TableName) (values : List String) : Prop :=
  List.Forall₂ (fun value column => column.check.Holds value) values table.columns

def normal (table : TableName) (values : List String) : List String :=
  List.zipWith (fun value column => column.check.normal value) values table.columns

def insertion (table : TableName) : String :=
  "INSERT INTO " ++ table.text ++ " (" ++ String.intercalate ", " (table.columns.map Column.name) ++ ") VALUES (" ++
    String.intercalate ", " ((List.range table.columns.length).map fun i => "$" ++ toString (i + 1)) ++
    ") RETURNING " ++ table.keyColumn

def Stores (table : TableName) (values : List String) : Prop :=
  List.Forall₂ (fun value column => column.check.Stores value) values table.columns

theorem stores_iff {table : TableName} {values : List String} :
    table.Stores values ↔ (∀ value ∈ values, '\x00' ∉ value.toList) ∧ table.Admits values := List.forall₂_and_left _ _

theorem Stores.normal {table : TableName} {values : List String} (h : table.Stores values) :
    table.Admits (table.normal values) := by
  unfold Stores at h
  unfold Admits TableName.normal
  generalize table.columns = columns at h
  induction h with
  | nil => exact .nil
  | cons hstores _ ih => exact .cons hstores.normal ih

theorem depositRequests_stores {utxo recovery evm : String} :
    depositRequests.Stores [utxo, recovery, evm] ↔
      Storable utxo ∧ Storable recovery ∧ NormalHex evmAddressLength (Hex.lowercase evm) := by
  simp [Stores, columns, Column.freeText, Column.hex, Check.notEmpty_stores, Check.hexDigits_stores, evmAddressLength]

theorem moveTxs_stores {utxo recovery evm txid : String} :
    moveTxs.Stores [utxo, recovery, evm, txid] ↔
      Storable utxo ∧ Storable recovery ∧ NormalHex evmAddressLength (Hex.lowercase evm) ∧
        NormalHex txidLength (Hex.lowercase txid) := by
  simp [Stores, columns, Column.freeText, Column.hex, Check.notEmpty_stores, Check.hexDigits_stores, evmAddressLength,
    txidLength]

theorem withdrawalSigs_stores {txid sig : String} :
    withdrawalSigs.Stores [txid, sig] ↔
      NormalHex txidLength (Hex.lowercase txid) ∧ NormalHex signatureLength (Hex.lowercase sig) := by
  simp [Stores, columns, Column.hex, Check.hexDigits_stores, txidLength, signatureLength]

end TableName

theorem schemaText_declares (table : TableName) :
    ∃ before after, schemaText = before ++ table.declaration ++ after := by
  simp only [schemaText, String.append_assoc]
  cases table with
  | version => exact ⟨"", _, rfl⟩
  | depositRequests => exact ⟨TableName.version.declaration ++ "\n", _, by simp only [String.append_assoc]; rfl⟩
  | moveTxs =>
    exact ⟨TableName.version.declaration ++ "\n" ++ TableName.depositRequests.declaration ++ "\n", _,
      by simp only [String.append_assoc]; rfl⟩
  | withdrawalSigs =>
    exact ⟨TableName.version.declaration ++ "\n" ++ TableName.depositRequests.declaration ++ "\n" ++
      TableName.moveTxs.declaration ++ "\n", _, by simp only [String.append_assoc]; rfl⟩

/-! ## Records -/

/-- The table that the call fills, and the values for its columns. -/
def Operation.record? : Operation → Option (TableName × List String)
  | .recordDepositRequest utxo recovery evm => some (.depositRequests, [utxo, recovery, evm])
  | .recordMoveTx utxo recovery evm txid => some (.moveTxs, [utxo, recovery, evm, txid])
  | .recordWithdrawalSig txid sig => some (.withdrawalSigs, [txid, sig])
  | _ => none

def Plan.statement? {α : Type} : Plan α → Option Sent
  | .decided _ _ => none
  | .ask query _ => some (.execute query.text query.parameters)

theorem Operation.statement?_of_settled {call : Operation} (hsettled : call.settled? ≠ none) :
    call.planned.plan.statement? = none := by
  have hsettles := call.settles
  cases hplan : call.planned.plan with
  | decided answer log => rfl
  | ask query conclude =>
    rw [hplan] at hsettles
    exact absurd hsettles.1 hsettled

/-- The arguments are rejected and the columns would not store them, or both accept them, and the insertion into these
columns is sent with their normal forms. -/
inductive Operation.Checked (call : Operation) (table : TableName) (arguments : List String) : Prop
  | rejected (cause : FieldError) (settled : call.settled? = some (.error (.invalid cause)))
      (refused : ¬ table.Stores arguments)
  | accepted (unsettled : call.settled? = none) (stored : table.Stores arguments)
      (sent : call.planned.plan.statement? =
        some (.execute table.insertion ((table.normal arguments).map .text)))

theorem Operation.Checked.of {call : Operation} {table : TableName} {arguments : List String} {α : Type}
    {check : Except FieldError α} (hsettled : call.settled? = settledBy check fun cause => .error (.invalid cause))
    (hstores : (∃ normal, check = .ok normal) ↔ table.Stores arguments)
    (hsent : ∀ normal, check = .ok normal → call.planned.plan.statement? =
      some (.execute table.insertion ((table.normal arguments).map .text))) :
    call.Checked table arguments := by
  cases check with
  | error cause =>
    refine .rejected cause hsettled fun h => ?_
    obtain ⟨_, hok⟩ := hstores.mpr h
    cases hok
  | ok normal => exact .accepted hsettled (hstores.mp ⟨normal, rfl⟩) (hsent normal rfl)

theorem insertDepositRequest_text (utxo recovery evm : String) :
    (insertDepositRequest utxo recovery evm).text = TableName.depositRequests.insertion := by
  show _ ++ _ = _
  decide +kernel

theorem insertMoveTx_text (utxo recovery evm txid : String) :
    (insertMoveTx utxo recovery evm txid).text = TableName.moveTxs.insertion := by
  show _ ++ _ = _
  decide +kernel

theorem insertWithdrawalSig_text (txid sig : String) :
    (insertWithdrawalSig txid sig).text = TableName.withdrawalSigs.insertion := by
  show "INSERT INTO withdrawal_sigs (bridge_fund_txid, sig) VALUES ($1, $2) RETURNING idx" = _
  decide +kernel

theorem Operation.checked {call : Operation} {table : TableName} {arguments : List String}
    (hrecord : call.record? = some (table, arguments)) : call.Checked table arguments := by
  cases call with
  | recordDepositRequest utxo recovery evm =>
    cases hrecord
    refine .of rfl ?_ fun normal hcheck => ?_
    · simp only [Plan.checkDeposit_ok_iff, TableName.depositRequests_stores, exists_and_left, exists_eq, and_true]
    · obtain ⟨_, _, _, rfl⟩ := Plan.checkDeposit_ok_iff.mp hcheck
      simp only [Operation.planned, Plan.recordDepositRequest, hcheck, Plan.statement?, insertDepositRequest_text]
      rfl
  | recordMoveTx utxo recovery evm txid =>
    cases hrecord
    refine .of rfl ?_ fun normal hcheck => ?_
    · simp only [Plan.checkMove_ok_iff, TableName.moveTxs_stores, exists_and_left, exists_eq, and_true]
    · obtain ⟨_, _, _, _, rfl⟩ := Plan.checkMove_ok_iff.mp hcheck
      simp only [Operation.planned, Plan.recordMoveTx, hcheck, Plan.statement?, insertMoveTx_text]
      rfl
  | recordWithdrawalSig txid sig =>
    cases hrecord
    refine .of rfl ?_ fun normal hcheck => ?_
    · simp only [Plan.checkWithdrawal_ok_iff, TableName.withdrawalSigs_stores, exists_and_left, exists_eq, and_true]
    · obtain ⟨_, _, rfl⟩ := Plan.checkWithdrawal_ok_iff.mp hcheck
      simp only [Operation.planned, Plan.recordWithdrawalSig, hcheck, Plan.statement?, insertWithdrawalSig_text]
      rfl
  | _ => cases hrecord

/-- The arguments of a record call pass their checks exactly if none has a NUL character and all pass the checks that
the schema declares for the columns of the table; otherwise the call answers that they are invalid and sends nothing. If
they pass, what is sent is an insertion into these columns, and the values sent pass the same checks. -/
theorem Operation.checks_match_columns {call : Operation} {table : TableName} {arguments : List String}
    (hrecord : call.record? = some (table, arguments)) :
    (∃ before after, schemaText = before ++ table.declaration ++ after) ∧
      (call.settled? = none ↔ (∀ value ∈ arguments, '\x00' ∉ value.toList) ∧ table.Admits arguments) ∧
      (call.settled? ≠ none →
        (∃ cause, call.settled? = some (.error (.invalid cause))) ∧ call.planned.plan.statement? = none) ∧
      (call.settled? = none → call.planned.plan.statement? =
          some (.execute table.insertion ((table.normal arguments).map .text)) ∧
        table.Admits (table.normal arguments)) := by
  rw [← TableName.stores_iff]
  refine ⟨schemaText_declares table, ?_⟩
  cases Operation.checked hrecord with
  | rejected cause settled refused =>
    have hdecided : call.settled? ≠ none := by simp [settled]
    exact ⟨iff_of_false hdecided refused, fun _ => ⟨⟨cause, settled⟩, Operation.statement?_of_settled hdecided⟩,
      fun h => absurd h hdecided⟩
  | accepted unsettled stored sent =>
    exact ⟨iff_of_true unsettled stored, absurd unsettled, fun _ => ⟨sent, stored.normal⟩⟩

def capitalMove : Operation :=
  .recordMoveTx "utxo" "recovery" (String.ofList (List.replicate 40 'A')) (String.ofList (List.replicate 64 'F'))

theorem capitalMove_admitted :
    capitalMove.settled? = none ∧
      capitalMove.planned.plan.statement? = some (.execute TableName.moveTxs.insertion
        [.text "utxo", .text "recovery", .text (String.ofList (List.replicate 40 'a')),
          .text (String.ofList (List.replicate 64 'f'))]) ∧
      TableName.moveTxs.Admits ["utxo", "recovery", String.ofList (List.replicate 40 'a'),
        String.ofList (List.replicate 64 'f')] := by
  have haccepted : capitalMove.settled? = none := by decide +kernel
  have hrecord : capitalMove.record? = some (.moveTxs, ["utxo", "recovery", String.ofList (List.replicate 40 'A'),
      String.ofList (List.replicate 64 'F')]) := rfl
  obtain ⟨_, _, _, hsent⟩ := Operation.checks_match_columns hrecord
  obtain ⟨hstatement, hadmits⟩ := hsent haccepted
  have hnormal : TableName.moveTxs.normal ["utxo", "recovery", String.ofList (List.replicate 40 'A'),
      String.ofList (List.replicate 64 'F')] = ["utxo", "recovery", String.ofList (List.replicate 40 'a'),
      String.ofList (List.replicate 64 'f')] := by decide +kernel
  rw [hnormal] at hstatement hadmits
  exact ⟨haccepted, hstatement, hadmits⟩

end BridgeLedger
