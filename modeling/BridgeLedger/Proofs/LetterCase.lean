import BridgeLedger.Proofs.Runs
import Mathlib.Data.List.Forall2

/-!
# The case of hexadecimal letters

A check of hexadecimal text answers the same whatever the case of its letters: the lower-case form if the text passes,
and otherwise an offence that names no such letter (`checkHex_recased`). Nothing else of the text finds its way into a
plan. So two runs in which only this case differs are one run: `Session.run_ignores_case`.
-/

namespace BridgeLedger

/-! ## Letters -/

def Hex.isLetter (c : Char) : Bool := ('a' ≤ c && c ≤ 'f') || ('A' ≤ c && c ≤ 'F')

def Hex.SameLetter (c d : Char) : Prop :=
  c = d ∨ (Hex.isLetter c = true ∧ Hex.isLetter d = true ∧ c.toLower = d.toLower)

instance (c d : Char) : Decidable (Hex.SameLetter c d) :=
  inferInstanceAs (Decidable (_ ∨ _))

theorem Hex.isDigit_of_isLetter {c : Char} (h : Hex.isLetter c = true) : Hex.isDigit c = true := by
  unfold Hex.isLetter at h
  simp only [Bool.or_eq_true, Bool.and_eq_true, decide_eq_true_eq] at h
  unfold Hex.isDigit Hex.value?
  by_cases h0 : '0' ≤ c ∧ c ≤ '9'
  · simp [h0]
  · rcases h with h | h <;> by_cases ha : 'a' ≤ c ∧ c ≤ 'f' <;> simp [h0, ha, h]

section
variable {c d : Char} (h : Hex.SameLetter c d)
include h

theorem Hex.SameLetter.toLower : c.toLower = d.toLower := by
  rcases h with h | ⟨_, _, h⟩
  · rw [h]
  · exact h

theorem Hex.SameLetter.isDigit : Hex.isDigit c = Hex.isDigit d := by
  unfold Hex.isDigit
  rw [← Hex.value?_toLower c, h.toLower, Hex.value?_toLower]

theorem Hex.SameLetter.eq_of_not_digit (hd : Hex.isDigit d = false) : c = d := by
  rcases h with h | ⟨_, hletter, _⟩
  · exact h
  · rw [Hex.isDigit_of_isLetter hletter] at hd
    cases hd

end

/-! ## Texts -/

def Hex.Recased (a b : String) : Prop := List.Forall₂ Hex.SameLetter a.toList b.toList

instance (a b : String) : Decidable (Hex.Recased a b) :=
  inferInstanceAs (Decidable (List.Forall₂ _ _ _))

section
variable {a b : List Char} (h : List.Forall₂ Hex.SameLetter a b)
include h

theorem Hex.map_toLower_recased : a.map Char.toLower = b.map Char.toLower := by
  induction h with
  | nil => rfl
  | cons hc _ ih => rw [List.map_cons, List.map_cons, hc.toLower, ih]

theorem Hex.find?_recased :
    (a.find? fun c => !Hex.isDigit c) = b.find? fun c => !Hex.isDigit c := by
  induction h with
  | nil => rfl
  | @cons c d _ _ hc _ ih =>
    simp only [List.find?_cons, hc.isDigit]
    cases hd : Hex.isDigit d with
    | true => simpa using ih
    | false => simp [hc.eq_of_not_digit hd]

theorem Hex.findIdx?_recased :
    (a.findIdx? fun c => !Hex.isDigit c) = b.findIdx? fun c => !Hex.isDigit c := by
  induction h with
  | nil => rfl
  | cons hc _ ih => simp only [List.findIdx?_cons, hc.isDigit, ih]

end

theorem checkHex_recased {a b : String} (h : Hex.Recased a b) (field : String) (length : Nat) :
    checkHex field a length = checkHex field b length := by
  have hlength : a.length = b.length := by
    rw [← String.length_toList, ← String.length_toList]
    exact h.length_eq
  have hlower : Hex.lowercase a = Hex.lowercase b := by
    unfold Hex.lowercase
    rw [← String.toList_inj, String.toList_map, String.toList_map]
    exact Hex.map_toLower_recased h
  have hdecode : Hex.decodeBytes? (Utf8.encode a) = Hex.decodeBytes? (Utf8.encode b) := by
    rw [Hex.decodeBytes?_encode, Hex.decodeBytes?_encode, ← Hex.decode?_map_toLower, Hex.map_toLower_recased h,
      Hex.decode?_map_toLower]
  unfold checkHex
  simp only [hlength, hlower, hdecode, Hex.find?_recased h, Hex.findIdx?_recased h]

/-! ## Calls -/

/-- The calls differ at most in the case of letters in their hexadecimal arguments. -/
inductive Operation.Recased : Operation → Operation → Prop
  | recordDepositRequest (utxo recovery : String) {evm evm' : String} (hevm : Hex.Recased evm evm') :
      Recased (.recordDepositRequest utxo recovery evm) (.recordDepositRequest utxo recovery evm')
  | recordMoveTx (utxo recovery : String) {evm evm' txid txid' : String} (hevm : Hex.Recased evm evm')
      (htxid : Hex.Recased txid txid') :
      Recased (.recordMoveTx utxo recovery evm txid) (.recordMoveTx utxo recovery evm' txid')
  | recordWithdrawalSig {txid txid' sig sig' : String} (htxid : Hex.Recased txid txid') (hsig : Hex.Recased sig sig') :
      Recased (.recordWithdrawalSig txid sig) (.recordWithdrawalSig txid' sig')
  | depositRequestsFor {evm evm' : String} (hevm : Hex.Recased evm evm') :
      Recased (.depositRequestsFor evm) (.depositRequestsFor evm')
  | moveTxWithTxid {txid txid' : String} (htxid : Hex.Recased txid txid') :
      Recased (.moveTxWithTxid txid) (.moveTxWithTxid txid')
  | moveTxsFor {evm evm' : String} (hevm : Hex.Recased evm evm') : Recased (.moveTxsFor evm) (.moveTxsFor evm')
  | withdrawalSigsFor {txid txid' : String} (htxid : Hex.Recased txid txid') :
      Recased (.withdrawalSigsFor txid) (.withdrawalSigsFor txid')
  | same (call : Operation) : Recased call call

inductive Step.Recased : Step → Step → Prop
  | operation {call call' : Operation} (h : call.Recased call') : Recased (.operation call) (.operation call')
  | same (step : Step) : Recased step step

theorem Operation.planned_recased {call call' : Operation} (h : call.Recased call') : call.planned = call'.planned := by
  cases h with
  | recordDepositRequest utxo recovery hevm =>
    simp only [Operation.planned, Plan.recordDepositRequest, Plan.checkDeposit, checkEvmAddress, checkHex_recased hevm]
  | recordMoveTx utxo recovery hevm htxid =>
    simp only [Operation.planned, Plan.recordMoveTx, Plan.checkMove, Plan.checkDeposit, checkEvmAddress, checkTxid,
      checkHex_recased hevm, checkHex_recased htxid]
  | recordWithdrawalSig htxid hsig =>
    simp only [Operation.planned, Plan.recordWithdrawalSig, Plan.checkWithdrawal, checkTxid, checkSignature,
      checkHex_recased htxid, checkHex_recased hsig]
  | depositRequestsFor hevm =>
    simp only [Operation.planned, Plan.depositRequestsFor, checkEvmAddress, checkHex_recased hevm]
  | moveTxWithTxid htxid => simp only [Operation.planned, Plan.moveTxWithTxid, checkTxid, checkHex_recased htxid]
  | moveTxsFor hevm => simp only [Operation.planned, Plan.moveTxsFor, checkEvmAddress, checkHex_recased hevm]
  | withdrawalSigsFor htxid =>
    simp only [Operation.planned, Plan.withdrawalSigsFor, checkTxid, checkHex_recased htxid]
  | same => rfl

/-! ## Steps and runs -/

theorem Session.step_recased (session : Session) {step step' : Step} (h : step.Recased step') :
    session.step step = session.step step' := by
  cases h with
  | @operation call call' h =>
    show session.operate call = session.operate call'
    rw [session.operate_eq, session.operate_eq, Operation.planned_recased h]
  | same => rfl

/-- Two runs whose steps differ in the case of hexadecimal letters alone have the same reports, that is answers, log
lines and statements sent, and the same end. -/
theorem Session.run_ignores_case {steps steps' : List Step} (h : List.Forall₂ Step.Recased steps steps')
    (session : Session) : session.run steps = session.run steps' := by
  induction h generalizing session with
  | nil => rfl
  | cons hstep _ ih => rw [Session.run_cons, Session.run_cons, session.step_recased hstep, ih]

/-- A move is recorded, repeated and looked up, and an address is refused for its fourth character. -/
def spelledRun (evm other txid again bad : String) : List Step :=
  [.provision, .operation (.recordMoveTx "utxo" "recovery" evm txid),
    .operation (.recordMoveTx "utxo" "recovery" other again), .operation (.moveTxWithTxid again),
    .operation (.recordDepositRequest "utxo" "recovery" bad)]

theorem spelledRun_same :
    let shouted := spelledRun (String.ofList (List.replicate 40 'A')) (String.ofList (List.replicate 40 'B'))
      (String.ofList (List.replicate 64 'C')) (String.ofList (List.replicate 64 'c'))
      ("aBcx" ++ String.ofList (List.replicate 36 'D'))
    let whispered := spelledRun (String.ofList (List.replicate 40 'a')) (String.ofList (List.replicate 40 'b'))
      (String.ofList (List.replicate 64 'c')) (String.ofList (List.replicate 64 'c'))
      ("abcx" ++ String.ofList (List.replicate 36 'd'))
    List.Forall₂ Step.Recased shouted whispered ∧ shouted ≠ whispered ∧
      Session.run {} shouted = Session.run {} whispered ∧
      (Session.run {} shouted).1.map Report.answer =
        [.ok .done, .ok (.key 1), .error (.alreadyRecorded (String.ofList (List.replicate 64 'c'))),
          .ok (.moveTx (some ⟨1, "utxo", "recovery", String.ofList (List.replicate 40 'a'),
            String.ofList (List.replicate 64 'c'), ⟨0⟩⟩)),
          .error (.invalid (.notHex "evm_address" 'x' 3))] := by
  intro shouted whispered
  have hrecased : List.Forall₂ Step.Recased shouted whispered := by
    refine .cons (.same _) (.cons (.operation (.recordMoveTx _ _ ?_ ?_)) (.cons (.operation (.recordMoveTx _ _ ?_ ?_))
      (.cons (.same _) (.cons (.operation (.recordDepositRequest _ _ ?_)) .nil)))) <;>
      decide +kernel
  have hrun := Session.run_ignores_case hrecased {}
  refine ⟨hrecased, by decide +kernel, hrun, ?_⟩
  rw [hrun]
  decide +kernel

end BridgeLedger
