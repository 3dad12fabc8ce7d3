import BridgeLedger.Proofs.ColumnChecks
import BridgeLedger.Proofs.HexText

/-!
# What the arguments of a call come to

The fields of a call are checked one after the other, and the error is that of the first that its column refuses
(`FirstRefusal`). If there is one, a record is rejected, and a lookup finds nothing. If there is none, the call asks its
own statement, whose parameters are the fields in their normal form, and reports the outcome (`Operation.planning`).
-/

namespace BridgeLedger

/-! ## Refusals -/

inductive Column.Refuses (column : Column) (value : String) : FieldError → Prop
  | empty (text : column.check = .notEmpty) (empty : value = "") : Column.Refuses column value (.empty column.name)
  | nulCharacter {index : Nat} (text : column.check = .notEmpty) (here : value.toList[index]? = some '\x00')
      (first : ∀ i < index, value.toList[i]? ≠ some '\x00') :
      Column.Refuses column value (.nulCharacter column.name index)
  | length {length : Nat} (hex : column.check = .hexDigits length) (differs : value.length ≠ length) :
      Column.Refuses column value (.length column.name length value.length)
  | notHex {length index : Nat} {c : Char} (hex : column.check = .hexDigits length) (fits : value.length = length)
      (first : Hex.FirstForeign value.toList c index) :
      Column.Refuses column value (.notHex column.name c index)

/-- Of the fields, the first that is refused at all is refused for this cause. -/
inductive FirstRefusal : List (Column × String) → FieldError → Prop
  | here {column : Column} {value : String} {cause : FieldError} {rest : List (Column × String)}
      (refuses : column.Refuses value cause) : FirstRefusal ((column, value) :: rest) cause
  | later {column : Column} {value : String} {cause : FieldError} {rest : List (Column × String)}
      (passes : ∀ other, ¬ column.Refuses value other) (first : FirstRefusal rest cause) :
      FirstRefusal ((column, value) :: rest) cause

section
variable {fields rest : List (Column × String)} {column : Column} {value : String} {cause : FieldError}

theorem firstRefusal_nil : ¬ FirstRefusal [] cause := fun h => nomatch h

theorem firstRefusal_cons : FirstRefusal ((column, value) :: rest) cause ↔
    column.Refuses value cause ∨ (∀ other, ¬ column.Refuses value other) ∧ FirstRefusal rest cause := by
  constructor
  · intro h
    cases h with
    | here refuses => exact .inl refuses
    | later passes first => exact .inr ⟨passes, first⟩
  · rintro (refuses | ⟨passes, first⟩)
    · exact .here refuses
    · exact .later passes first

theorem exists_firstRefusal : (∃ cause, FirstRefusal fields cause) ↔
    ∃ field ∈ fields, ∃ cause, field.1.Refuses field.2 cause := by
  induction fields with
  | nil => simp [firstRefusal_nil]
  | cons field rest ih =>
    obtain ⟨column, value⟩ := field
    simp only [firstRefusal_cons, exists_or, exists_and_left, ih, List.exists_mem_cons_iff]
    by_cases hrefuses : ∃ cause, column.Refuses value cause
    · exact iff_of_true (.inl hrefuses) (.inl hrefuses)
    · rw [or_iff_right hrefuses, or_iff_right hrefuses, and_iff_right (not_exists.mp hrefuses)]

theorem firstRefusal_append : FirstRefusal (fields ++ rest) cause ↔
    FirstRefusal fields cause ∨ (∀ other, ¬ FirstRefusal fields other) ∧ FirstRefusal rest cause := by
  induction fields with
  | nil => simp [firstRefusal_nil]
  | cons field fields ih =>
    obtain ⟨column, value⟩ := field
    simp only [List.cons_append, firstRefusal_cons, ih, not_or, not_and, forall_and]
    by_cases hrefuses : ∃ other, column.Refuses value other
    · obtain ⟨other, hother⟩ := hrefuses
      have hnot : ¬ ∀ other, ¬ column.Refuses value other := fun h => h other hother
      simp [hnot]
    · have hpasses : ∀ other, ¬ column.Refuses value other := not_exists.mp hrefuses
      simp [hpasses]

end

/-! ## Checks -/

theorem findIdx?_nul {text : List Char} {index : Nat} : text.findIdx? (· == '\x00') = some index ↔
    text[index]? = some '\x00' ∧ ∀ i < index, text[i]? ≠ some '\x00' := by
  rw [List.findIdx?_eq_some_iff_getElem]
  constructor
  · rintro ⟨hin, hnul, hbefore⟩
    refine ⟨List.getElem?_eq_some_iff.mpr ⟨hin, by simpa using hnul⟩, fun i hi h => ?_⟩
    obtain ⟨_, hnul⟩ := List.getElem?_eq_some_iff.mp h
    exact hbefore i hi (by simpa using hnul)
  · rintro ⟨hhere, hbefore⟩
    obtain ⟨hin, hnul⟩ := List.getElem?_eq_some_iff.mp hhere
    refine ⟨hin, by simpa using hnul, fun i hi h => hbefore i hi ?_⟩
    exact List.getElem?_eq_some_iff.mpr ⟨Nat.lt_trans hi hin, by simpa using h⟩

section
variable {column : Column} {value : String} {cause : FieldError}

theorem checkText_error_iff (htext : column.check = .notEmpty) :
    checkText column.name value = .error cause ↔ column.Refuses value cause := by
  constructor
  · intro h
    by_cases hempty : value = ""
    · subst hempty
      cases h
      exact .empty htext rfl
    · have hne : value.isEmpty = false := by simpa using hempty
      cases hnul : value.toList.findIdx? (· == '\x00') with
      | none =>
        simp only [checkText, hne, hnul, Bool.false_eq_true, ite_false] at h
        cases h
      | some index =>
        simp only [checkText, hne, hnul, Bool.false_eq_true, ite_false] at h
        cases h
        obtain ⟨here, first⟩ := findIdx?_nul.mp hnul
        exact .nulCharacter htext here first
  · intro h
    cases h with
    | empty _ empty =>
      rw [empty]
      rfl
    | nulCharacter _ here first =>
      have hne : value.isEmpty = false := by
        rw [String.isEmpty_eq_false_iff]
        rintro rfl
        cases here
      simp only [checkText, hne, findIdx?_nul.mpr ⟨here, first⟩, Bool.false_eq_true, ite_false]
    | length hex | notHex hex => cases htext.symm.trans hex

theorem Column.Refuses.checkHex_eq {length : Nat} (hhex : column.check = .hexDigits length)
    (h : column.Refuses value cause) : checkHex column.name value length = .error cause := by
  cases h with
  | empty text | nulCharacter text => cases hhex.symm.trans text
  | length hex differs =>
    cases hhex.symm.trans hex
    exact (HexVerdict.length differs).checkHex_eq
  | notHex hex fits first =>
    cases hhex.symm.trans hex
    exact (HexVerdict.notHex fits first).checkHex_eq

theorem checkHex_error_iff {length : Nat} (hhex : column.check = .hexDigits length) (heven : length % 2 = 0) :
    checkHex column.name value length = .error cause ↔ column.Refuses value cause := by
  refine ⟨fun h => ?_, Column.Refuses.checkHex_eq hhex⟩
  have hverdict := @checkHex_verdict column.name value length
  rw [h] at hverdict
  cases hverdict with
  | length differs => exact .length hhex differs
  | notHex fits first => exact .notHex hhex fits first
  | odd _ hodd _ => omega

theorem Column.Refuses.unique {other : FieldError} (h : column.Refuses value cause)
    (hother : column.Refuses value other) : cause = other := by
  cases hcheck : column.check with
  | notEmpty =>
    have htext := (checkText_error_iff hcheck).mpr h
    exact Except.error.inj (htext.symm.trans ((checkText_error_iff hcheck).mpr hother))
  | hexDigits length => exact Except.error.inj ((h.checkHex_eq hcheck).symm.trans (hother.checkHex_eq hcheck))

theorem FirstRefusal.unique {fields : List (Column × String)} {other : FieldError} (h : FirstRefusal fields cause)
    (hother : FirstRefusal fields other) : cause = other := by
  induction h with
  | here refuses =>
    cases hother with
    | here refuses' => exact refuses.unique refuses'
    | later passes _ => exact absurd refuses (passes _)
  | later passes _ ih =>
    cases hother with
    | here refuses => exact absurd refuses (passes _)
    | later _ first => exact ih first

/-- The check fails for the cause of the first refusal among the fields, and only for that. -/
def Examines {α : Type} (check : Except FieldError α) (fields : List (Column × String)) : Prop :=
  ∀ cause, check = .error cause ↔ FirstRefusal fields cause

theorem Examines.text {field : String} (hname : column.name = field) (htext : column.check = .notEmpty) :
    Examines (checkText field value) [(column, value)] := by
  intro cause
  rw [← hname, checkText_error_iff htext, firstRefusal_cons]
  simp [firstRefusal_nil]

theorem Examines.hex {field : String} {length : Nat} (hname : column.name = field)
    (hhex : column.check = .hexDigits length) (heven : length % 2 = 0) :
    Examines (checkHex field value length) [(column, value)] := by
  intro cause
  rw [← hname, checkHex_error_iff hhex heven, firstRefusal_cons]
  simp [firstRefusal_nil]

end

section
variable {α β : Type} {first : Except FieldError α} {next : α → Except FieldError β}
  {fields rest : List (Column × String)}

theorem Examines.passes (h : Examines first fields) {a : α} (hok : first = .ok a) :
    ∀ cause, ¬ FirstRefusal fields cause := by
  intro cause hrefusal
  cases hok.symm.trans ((h cause).mpr hrefusal)

theorem Examines.pure (a : α) : Examines (.ok a) [] := fun _ => ⟨nofun, nofun⟩

theorem Examines.bind (hfirst : Examines first fields) (hnext : ∀ a, Examines (next a) rest) :
    Examines (first >>= next) (fields ++ rest) := by
  intro cause
  rw [firstRefusal_append]
  cases hcheck : first with
  | error other =>
    have hother := (hfirst other).mp hcheck
    rw [← hfirst cause, hcheck, or_iff_left fun h => h.1 other hother]
    exact ⟨by rintro ⟨⟩; rfl, by rintro ⟨⟩; rfl⟩
  | ok a =>
    have hpasses := hfirst.passes hcheck
    rw [or_iff_right (hpasses cause), and_iff_right hpasses]
    exact hnext a cause

end

/-! ## Columns -/

theorem Column.storable_of_passes {column : Column} (htext : column.check = .notEmpty) {value : String}
    (hpasses : ∀ cause, ¬ column.Refuses value cause) : Storable value := by
  refine ⟨fun hempty => hpasses _ (.empty htext hempty), fun hnul => ?_⟩
  cases hfind : value.toList.findIdx? (· == '\x00') with
  | none => simpa using List.findIdx?_eq_none_iff.mp hfind _ hnul
  | some index =>
    obtain ⟨here, first⟩ := findIdx?_nul.mp hfind
    exact hpasses _ (.nulCharacter htext here first)

theorem Column.normalHex_of_passes {column : Column} {length : Nat} (hhex : column.check = .hexDigits length)
    {value : String} (hpasses : ∀ cause, ¬ column.Refuses value cause) : NormalHex length (Hex.lowercase value) := by
  have hlength : value.length = length := by
    by_contra hdiffers
    exact hpasses _ (.length hhex hdiffers)
  refine normalHex_lowercase_iff.mpr ⟨hlength, ?_⟩
  by_contra hforeign
  simp only [← Hex.digit_iff] at hforeign
  obtain ⟨c, index, first⟩ := Hex.exists_firstForeign hforeign
  exact hpasses _ (.notHex hhex hlength first)

theorem Column.stores_iff {column : Column} {value : String} :
    column.check.Stores value ↔ ∀ cause, ¬ column.Refuses value cause := by
  constructor
  · intro hstores cause hrefuses
    cases hrefuses with
    | empty text empty =>
      rw [text, Check.notEmpty_stores] at hstores
      exact hstores.1 empty
    | nulCharacter text here first =>
      exact hstores.1 (List.mem_of_getElem? here)
    | length hex differs =>
      rw [hex, Check.hexDigits_stores, normalHex_lowercase_iff] at hstores
      exact differs hstores.1
    | notHex hex fits first =>
      rw [hex, Check.hexDigits_stores, normalHex_lowercase_iff] at hstores
      exact first.foreign (Hex.digit_iff.mpr (hstores.2 _ (List.mem_of_getElem? first.here)))
  · intro hpasses
    cases hcheck : column.check with
    | notEmpty => exact Check.notEmpty_stores.mpr (Column.storable_of_passes hcheck hpasses)
    | hexDigits length => exact Check.hexDigits_stores.mpr (Column.normalHex_of_passes hcheck hpasses)

theorem Column.exists_refuses_text {column : Column} (htext : column.check = .notEmpty) {value : String} :
    (∃ cause, column.Refuses value cause) ↔ value = "" ∨ '\x00' ∈ value.toList := by
  rw [← not_iff_not, not_exists, ← Column.stores_iff, htext, Check.notEmpty_stores, not_or]
  exact Iff.rfl

/-! ## Fields and statements -/

def opensWith (word text : String) : Bool := word.toList.isPrefixOf text.toList

theorem opensWith_append {word first : String} (h : word.length ≤ first.length) (rest : String) :
    opensWith word (first ++ rest) = opensWith word first := by
  unfold opensWith
  rw [Bool.eq_iff_iff, List.isPrefixOf_iff_prefix, List.isPrefixOf_iff_prefix, String.toList_append]
  have hfirst := List.prefix_append first.toList rest.toList
  exact ⟨fun hwhole => List.prefix_of_prefix_length_le hwhole hfirst h, fun hword => hword.trans hfirst⟩

namespace TableName

def selection (table : TableName) (column : String) : String :=
  "SELECT * FROM " ++ table.text ++ " WHERE " ++ column ++ " = $1"

def selectionInOrder (table : TableName) (column : String) : String :=
  table.selection column ++ " ORDER BY " ++ table.keyColumn

def counting (table : TableName) : String := "(SELECT COUNT(*) FROM " ++ table.text ++ ")"

end TableName

namespace Operation

/-- The arguments that are checked, in the order of the checks, each with the column that it is meant for. -/
def fields : Operation → List (Column × String)
  | recordDepositRequest utxo recovery evm => TableName.depositRequests.columns.zip [utxo, recovery, evm]
  | recordMoveTx utxo recovery evm txid => TableName.moveTxs.columns.zip [utxo, recovery, evm, txid]
  | recordWithdrawalSig txid sig => TableName.withdrawalSigs.columns.zip [txid, sig]
  | depositRequestsFor evm | moveTxsFor evm => [(.hex "evm_address" 40, evm)]
  | depositRequestsSpending utxo | moveTxsSpending utxo => [(.freeText "start_utxo", utxo)]
  | moveTxWithTxid txid => [(.hex "move_txid" 64, txid)]
  | withdrawalSigsFor txid => [(.hex "bridge_fund_txid" 64, txid)]
  | depositRequest _ | moveTx _ | withdrawalSig _ | counts => []

def statement : Operation → String
  | recordDepositRequest _ _ _ => TableName.depositRequests.insertion
  | recordMoveTx _ _ _ _ => TableName.moveTxs.insertion
  | recordWithdrawalSig _ _ => TableName.withdrawalSigs.insertion
  | depositRequest _ => TableName.depositRequests.selection "id"
  | depositRequestsFor _ => TableName.depositRequests.selectionInOrder "evm_address"
  | depositRequestsSpending _ => TableName.depositRequests.selectionInOrder "start_utxo"
  | moveTx _ => TableName.moveTxs.selection "id"
  | moveTxWithTxid _ => TableName.moveTxs.selection "move_txid"
  | moveTxsFor _ => TableName.moveTxs.selectionInOrder "evm_address"
  | moveTxsSpending _ => TableName.moveTxs.selectionInOrder "start_utxo"
  | withdrawalSig _ => TableName.withdrawalSigs.selection "idx"
  | withdrawalSigsFor _ => TableName.withdrawalSigs.selectionInOrder "bridge_fund_txid"
  | counts =>
    "SELECT " ++ String.intercalate ", "
      [TableName.depositRequests.counting, TableName.moveTxs.counting, TableName.withdrawalSigs.counting]

/-- The parameters of the statement: a key, or the fields in the form in which their columns store them. -/
def parameters : Operation → List Parameter
  | depositRequest id | moveTx id => [.int id]
  | withdrawalSig idx => [.int idx]
  | call => call.fields.map fun field => .text (field.1.check.normal field.2)

def trail : Operation → Except LedgerError Reply → List LogLine
  | recordDepositRequest utxo _ evm, .ok (.key id) =>
    [⟨.debug,
      s!"Recorded deposit request #{id} for EVM address '{Hex.lowercase evm}' (start utxo '{utxo}')"⟩]
  | recordDepositRequest _ _ _, .error (.invalid cause) => [⟨.debug, s!"Rejecting deposit request: {cause.message}"⟩]
  | recordMoveTx _ _ evm txid, .ok (.key id) =>
    [⟨.debug,
      s!"Recorded move tx '{Hex.lowercase txid}' as #{id} for EVM address '{Hex.lowercase evm}'"⟩]
  | recordMoveTx _ _ _ txid, .error (.alreadyRecorded _) =>
    [⟨.debug, s!"Refusing to record move tx '{Hex.lowercase txid}' twice"⟩]
  | recordMoveTx _ _ _ _, .error (.invalid cause) => [⟨.debug, s!"Rejecting move tx: {cause.message}"⟩]
  | recordWithdrawalSig txid _, .ok (.key idx) =>
    [⟨.debug, s!"Recorded withdrawal signature #{idx} for bridge fund tx '{Hex.lowercase txid}'"⟩]
  | recordWithdrawalSig _ _, .error (.invalid cause) =>
    [⟨.debug, s!"Rejecting withdrawal signature: {cause.message}"⟩]
  | _, _ => []

@[simp] theorem trail_server (call : Operation) (cause : ServerError) : call.trail (.error (.server cause)) = [] := by
  cases call <;> rfl

theorem trail_of_lookup {call : Operation} (hlookup : call.isRecord = false) (answer : Except LedgerError Reply) :
    call.trail answer = [] := by
  cases call with
  | recordDepositRequest | recordMoveTx | recordWithdrawalSig => cases hlookup
  | _ => rfl

end Operation

theorem Operation.passes_iff {call : Operation} {table : TableName} {arguments : List String}
    (hrecord : call.record? = some (table, arguments)) :
    (∀ cause, ¬ FirstRefusal call.fields cause) ↔ table.Stores arguments := by
  have hpasses : (∀ cause, ¬ FirstRefusal call.fields cause) ↔
      ∀ field ∈ call.fields, field.1.check.Stores field.2 := by
    simp only [← not_exists, exists_firstRefusal, Column.stores_iff]
    simp
  rw [hpasses]
  cases call with
  | recordDepositRequest | recordMoveTx | recordWithdrawalSig =>
    cases hrecord
    simp [Operation.fields, TableName.Stores, TableName.columns]
  | _ => cases hrecord

/-! ## Plans -/

inductive Operation.Concludes {α : Type} (call : Operation) : Except ServerError α → Except LedgerError α → Prop
  | answered (found : α) : Operation.Concludes call (.ok found) (.ok found)
  | failed (cause : ServerError) : Operation.Concludes call (.error cause) (.error (.server cause))
  | repeated {utxo recovery evm txid : String} (move : call = .recordMoveTx utxo recovery evm txid) :
      Operation.Concludes call (.error (.refused .uniqueViolation)) (.error (.alreadyRecorded (Hex.lowercase txid)))

inductive Operation.Planning (call : Operation) : Planned → Prop
  | rejected {wrap : Int → Reply} {cause : FieldError} (record : call.isRecord = true)
      (first : FirstRefusal call.fields cause) :
      Operation.Planning call ⟨wrap, .decided (.error (.invalid cause)) (call.trail (.error (.invalid cause)))⟩
  | nothing {α : Type} {wrap : α → Reply} {nothing : α} {cause : FieldError} (lookup : call.isRecord = false)
      (first : FirstRefusal call.fields cause) : Operation.Planning call ⟨wrap, .decided (.ok nothing) []⟩
  | asks {α : Type} {wrap : α → Reply} {query : Query α}
      {conclude : Except ServerError α → Except LedgerError α × List LogLine}
      (passes : ∀ cause, ¬ FirstRefusal call.fields cause) (text : query.text = call.statement)
      (parameters : query.parameters = call.parameters)
      (keyed : call.isRecord = true → ∀ found, ∃ key, wrap found = .key key)
      (concludes : ∀ outcome, call.Concludes outcome (conclude outcome).1)
      (logs : ∀ outcome, (conclude outcome).2 = call.trail ((conclude outcome).1.map wrap)) :
      Operation.Planning call ⟨wrap, .ask query conclude⟩

section
variable {call : Operation} (hlookup : call.isRecord = false) {α : Type} {wrap : α → Reply}
include hlookup

theorem Operation.Planning.lookup (hpasses : ∀ cause, ¬ FirstRefusal call.fields cause) {query : Query α}
    (htext : query.text = call.statement) (hparameters : query.parameters = call.parameters) :
    call.Planning ⟨wrap, .lookup query⟩ := by
  refine .asks hpasses htext hparameters (fun hrecord => by cases hlookup.symm.trans hrecord) ?_
    fun outcome => (Operation.trail_of_lookup hlookup _).symm
  rintro (cause | found)
  · exact .failed cause
  · exact .answered found

theorem Operation.Planning.lookupAny (hfields : call.fields = []) {query : Query α}
    (htext : query.text = call.statement) (hparameters : query.parameters = call.parameters) :
    call.Planning ⟨wrap, .lookup query⟩ := by
  refine .lookup hlookup (fun cause => ?_) htext hparameters
  rw [hfields]
  exact firstRefusal_nil

theorem Operation.Planning.lookupChecked {κ : Type} {key : Except FieldError κ} (hkey : Examines key call.fields)
    {query : κ → Query α} (htext : ∀ k, (query k).text = call.statement)
    (hparameters : ∀ k, key = .ok k → (query k).parameters = call.parameters) (nothing : α) :
    call.Planning ⟨wrap, .lookupChecked key nothing query⟩ := by
  cases key with
  | error cause => exact .nothing hlookup ((hkey cause).mp rfl)
  | ok k => exact .lookup hlookup (hkey.passes rfl) (htext k) (hparameters k rfl)

end

theorem checkStartUtxo_examines (utxo : String) :
    Examines (checkText "start_utxo" utxo) [(.freeText "start_utxo", utxo)] := .text rfl rfl

theorem checkEvmAddress_examines (evm : String) : Examines (checkEvmAddress evm) [(.hex "evm_address" 40, evm)] :=
  .hex rfl rfl rfl

theorem checkTxid_examines (field txid : String) : Examines (checkTxid field txid) [(.hex field 64, txid)] :=
  .hex rfl rfl rfl

theorem Plan.checkDeposit_examines (utxo recovery evm : String) :
    Examines (Plan.checkDeposit utxo recovery evm) (Operation.recordDepositRequest utxo recovery evm).fields := by
  have hrecovery : Examines (checkText "recovery_taproot_address" recovery)
      [(.freeText "recovery_taproot_address", recovery)] := .text rfl rfl
  exact (checkStartUtxo_examines utxo).bind fun _ => hrecovery.bind fun _ => checkEvmAddress_examines evm

theorem Plan.checkMove_examines (utxo recovery evm txid : String) :
    Examines (Plan.checkMove utxo recovery evm txid) (Operation.recordMoveTx utxo recovery evm txid).fields := by
  have htxid : Examines (checkTxid "move_txid" txid) [({ Column.hex "move_txid" 64 with unique := true }, txid)] :=
    .hex rfl rfl rfl
  exact (Plan.checkDeposit_examines utxo recovery evm).bind fun _ => htxid.bind fun _ => .pure _

theorem Plan.checkWithdrawal_examines (txid sig : String) :
    Examines (Plan.checkWithdrawal txid sig) (Operation.recordWithdrawalSig txid sig).fields := by
  have hsig : Examines (checkSignature sig) [(.hex "sig" 128, sig)] := .hex rfl rfl rfl
  exact (checkTxid_examines "bridge_fund_txid" txid).bind fun _ => hsig.bind fun _ => .pure _

namespace Operation.Planning

theorem recordDepositRequest (utxo recovery evm : String) :
    (Operation.recordDepositRequest utxo recovery evm).Planning
      (Operation.recordDepositRequest utxo recovery evm).planned := by
  have hexamines := Plan.checkDeposit_examines utxo recovery evm
  simp only [Operation.planned, Plan.recordDepositRequest]
  cases hcheck : Plan.checkDeposit utxo recovery evm with
  | error cause => exact .rejected rfl ((hexamines cause).mp hcheck)
  | ok normal =>
    obtain ⟨_, _, _, rfl⟩ := Plan.checkDeposit_ok_iff.mp hcheck
    refine .asks (hexamines.passes hcheck) (insertDepositRequest_text _ _ _) rfl (fun _ key => ⟨key, rfl⟩) ?_ ?_
    · rintro (cause | id)
      · exact .failed cause
      · exact .answered id
    · rintro (cause | id) <;> rfl

theorem recordMoveTx (utxo recovery evm txid : String) :
    (Operation.recordMoveTx utxo recovery evm txid).Planning
      (Operation.recordMoveTx utxo recovery evm txid).planned := by
  have hexamines := Plan.checkMove_examines utxo recovery evm txid
  simp only [Operation.planned, Plan.recordMoveTx]
  cases hcheck : Plan.checkMove utxo recovery evm txid with
  | error cause => exact .rejected rfl ((hexamines cause).mp hcheck)
  | ok normal =>
    obtain ⟨_, _, _, _, rfl⟩ := Plan.checkMove_ok_iff.mp hcheck
    refine .asks (hexamines.passes hcheck) (insertMoveTx_text _ _ _ _) rfl (fun _ key => ⟨key, rfl⟩) ?_ ?_
    · rintro (cause | id)
      · by_cases hunique : cause = .refused .uniqueViolation
        · subst hunique
          exact .repeated rfl
        · simp only [if_neg hunique]
          exact .failed cause
      · exact .answered id
    · rintro (cause | id)
      · by_cases hunique : cause = .refused .uniqueViolation
        · simp only [if_pos hunique]
          rfl
        · simp only [if_neg hunique]
          rfl
      · rfl

theorem recordWithdrawalSig (txid sig : String) :
    (Operation.recordWithdrawalSig txid sig).Planning (Operation.recordWithdrawalSig txid sig).planned := by
  have hexamines := Plan.checkWithdrawal_examines txid sig
  simp only [Operation.planned, Plan.recordWithdrawalSig]
  cases hcheck : Plan.checkWithdrawal txid sig with
  | error cause => exact .rejected rfl ((hexamines cause).mp hcheck)
  | ok normal =>
    obtain ⟨_, _, rfl⟩ := Plan.checkWithdrawal_ok_iff.mp hcheck
    refine .asks (hexamines.passes hcheck) (insertWithdrawalSig_text _ _) rfl (fun _ key => ⟨key, rfl⟩) ?_ ?_
    · rintro (cause | idx)
      · exact .failed cause
      · exact .answered idx
    · rintro (cause | idx) <;> rfl

end Operation.Planning

theorem Operation.planning (call : Operation) : call.Planning call.planned := by
  cases call with
  | recordDepositRequest utxo recovery evm => exact .recordDepositRequest utxo recovery evm
  | recordMoveTx utxo recovery evm txid => exact .recordMoveTx utxo recovery evm txid
  | recordWithdrawalSig txid sig => exact .recordWithdrawalSig txid sig
  | depositRequest | moveTx | withdrawalSig | counts => exact .lookupAny rfl rfl rfl rfl
  | depositRequestsFor evm | moveTxsFor evm =>
    refine .lookupChecked rfl (checkEvmAddress_examines evm) (fun _ => rfl) (fun k hk => ?_) []
    obtain ⟨_, rfl⟩ := checkEvmAddress_ok_iff.mp hk
    rfl
  | depositRequestsSpending utxo | moveTxsSpending utxo =>
    exact .lookupChecked rfl (checkStartUtxo_examines utxo) (fun _ => rfl) (fun _ _ => rfl) []
  | moveTxWithTxid txid =>
    refine .lookupChecked rfl (checkTxid_examines "move_txid" txid) (fun _ => rfl) (fun k hk => ?_) none
    obtain ⟨_, rfl⟩ := checkTxid_ok_iff.mp hk
    rfl
  | withdrawalSigsFor txid =>
    refine .lookupChecked rfl (checkTxid_examines "bridge_fund_txid" txid) (fun _ => rfl) (fun k hk => ?_) []
    obtain ⟨_, rfl⟩ := checkTxid_ok_iff.mp hk
    rfl

end BridgeLedger
