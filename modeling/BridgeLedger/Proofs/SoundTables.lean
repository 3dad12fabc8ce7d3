import BridgeLedger.Proofs.Runs

/-!
# Every table is sound

Only rows that passed the checks are ever inserted, and an insertion refuses what may not stand beside the rows that
are there. So in whatever state a server is that began without tables, whichever steps and faults have led there,
every row is valid and no two clash (`Session.run_sound`). Spelt out for the columns of the three tables, this is
`Session.stored_rows_sound`.
-/

namespace BridgeLedger

/-! ## Rows -/

structure DepositRequest.Valid (row : DepositRequest) : Prop where
  startUtxo : Storable row.startUtxo
  recoveryTaprootAddress : Storable row.recoveryTaprootAddress
  evmAddress : NormalHex evmAddressLength row.evmAddress

structure MoveTx.Valid (row : MoveTx) : Prop where
  startUtxo : Storable row.startUtxo
  recoveryTaprootAddress : Storable row.recoveryTaprootAddress
  evmAddress : NormalHex evmAddressLength row.evmAddress
  moveTxid : NormalHex txidLength row.moveTxid

structure WithdrawalSig.Valid (row : WithdrawalSig) : Prop where
  bridgeFundTxid : NormalHex txidLength row.bridgeFundTxid
  sig : NormalHex signatureLength row.sig

/-! ## Tables -/

structure Table.Sound {ρ : Type} (t : Table ρ) (clash : ρ → ρ → Bool) (valid : ρ → Prop) : Prop where
  valid : ∀ row ∈ t.rows, valid row
  distinct : t.Distinct clash

theorem Table.Sound.insert {ρ : Type} {t : Table ρ} {clash : ρ → ρ → Bool} {valid : ρ → Prop} {row : Int → ρ}
    (ht : t.Sound clash valid) (hcomm : ∀ a b, clash a b = clash b a) (hrow : ∀ key, valid (row key)) :
    (t.insert clash row).2.Sound clash valid where
  valid := by
    intro old hold
    rw [t.insert_rows, List.mem_append] at hold
    rcases hold with hold | hold
    · exact ht.valid old hold
    · obtain ⟨key, _, rfl⟩ := List.mem_map.mp hold
      exact hrow key
  distinct := Table.insert_distinct hcomm row ht.distinct

theorem Table.new_sound {ρ : Type} (clash : ρ → ρ → Bool) (valid : ρ → Prop) : ({} : Table ρ).Sound clash valid :=
  ⟨fun _ hrow => (nomatch hrow), List.Pairwise.nil⟩

section
variable {ρ : Type} {clash : ρ → ρ → Bool} {valid : ρ → Prop} {before : Option (Table ρ)}
  (hs : ∀ t, before = some t → t.Sound clash valid)
include hs

theorem Table.sound_of_created : ∀ t, some (before.getD {}) = some t → t.Sound clash valid := by
  intro t ht
  cases ht
  cases before with
  | none => exact Table.new_sound clash valid
  | some t => exact hs t rfl

theorem Table.sound_of_renumbered (key : Int) :
    ∀ t, before.map ({ · with nextKey := key }) = some t → t.Sound clash valid := by
  intro t ht
  obtain ⟨t, rfl, rfl⟩ := Option.map_eq_some_iff.mp ht
  exact ⟨(hs t rfl).valid, (hs t rfl).distinct⟩

end

/-! ## Databases -/

structure SoundDatabase (db : Database) : Prop where
  deposits : ∀ t, db.depositRequests = some t → t.Sound depositRequests.clash DepositRequest.Valid
  moves : ∀ t, db.moveTxs = some t → t.Sound moveTxs.clash MoveTx.Valid
  withdrawals : ∀ t, db.withdrawalSigs = some t → t.Sound withdrawalSigs.clash WithdrawalSig.Valid

theorem SoundDatabase.empty : SoundDatabase {} :=
  ⟨fun _ h => (nomatch h), fun _ h => (nomatch h), fun _ h => (nomatch h)⟩

section
variable {db : Database} (hs : SoundDatabase db)
include hs

theorem SoundDatabase.provisioned : SoundDatabase db.provisioned :=
  ⟨Table.sound_of_created hs.deposits, Table.sound_of_created hs.moves, Table.sound_of_created hs.withdrawals⟩

theorem SoundDatabase.insert {call : Operation} {ρ : Type} {c : Collection ρ} {row : Timestamp → Int → ρ}
    (hrecords : call.Records c row) {t : Table ρ} (ht : c.table db = some t) (now : Timestamp) :
    SoundDatabase (c.withTable db (t.insert c.clash (row now)).2) := by
  cases hrecords with
  | depositRequest valid =>
    obtain ⟨hutxo, hrecovery, hevm, _⟩ := Plan.checkDeposit_ok_iff.mp valid
    refine ⟨?_, hs.moves, hs.withdrawals⟩
    rintro _ ⟨⟩
    exact (hs.deposits t ht).insert depositRequests.clash_comm fun _ => ⟨hutxo, hrecovery, hevm⟩
  | moveTx valid =>
    obtain ⟨hutxo, hrecovery, hevm, htxid, _⟩ := Plan.checkMove_ok_iff.mp valid
    refine ⟨hs.deposits, ?_, hs.withdrawals⟩
    rintro _ ⟨⟩
    exact (hs.moves t ht).insert moveTxs.clash_comm fun _ => ⟨hutxo, hrecovery, hevm, htxid⟩
  | withdrawalSig valid =>
    obtain ⟨htxid, hsig, _⟩ := Plan.checkWithdrawal_ok_iff.mp valid
    refine ⟨hs.deposits, hs.moves, ?_⟩
    rintro _ ⟨⟩
    exact (hs.withdrawals t ht).insert withdrawalSigs.clash_comm fun _ => ⟨htxid, hsig⟩

theorem SoundDatabase.setNextKey (table : TableName) (key : Int) : SoundDatabase (db.setNextKey key table) := by
  cases table with
  | version => exact hs
  | depositRequests => exact ⟨Table.sound_of_renumbered hs.deposits key, hs.moves, hs.withdrawals⟩
  | moveTxs => exact ⟨hs.deposits, Table.sound_of_renumbered hs.moves key, hs.withdrawals⟩
  | withdrawalSigs => exact ⟨hs.deposits, hs.moves, Table.sound_of_renumbered hs.withdrawals key⟩

theorem SoundDatabase.drop (table : TableName) : SoundDatabase (db.drop table) := by
  cases table with
  | version => exact ⟨hs.deposits, hs.moves, hs.withdrawals⟩
  | depositRequests => exact ⟨fun _ h => (nomatch h), hs.moves, hs.withdrawals⟩
  | moveTxs => exact ⟨hs.deposits, fun _ h => (nomatch h), hs.withdrawals⟩
  | withdrawalSigs => exact ⟨hs.deposits, hs.moves, fun _ h => (nomatch h)⟩

end

/-! ## Steps and runs -/

theorem Session.step_sound {session : Session} (hs : SoundDatabase session.server.database) (step : Step) :
    SoundDatabase (session.step step).2.server.database := by
  have halters := session.step_alters step
  generalize (session.step step).2.server.database = after at halters ⊢
  cases halters with
  | kept => exact hs
  | provisioned => exact hs.provisioned
  | inserted hrecords ht => exact hs.insert hrecords ht session.server.clock
  | versions => exact ⟨hs.deposits, hs.moves, hs.withdrawals⟩
  | nextKey table key => exact hs.setNextKey table key
  | dropped table => exact hs.drop table

theorem Session.run_sound {session : Session} (hs : SoundDatabase session.server.database) (steps : List Step) :
    SoundDatabase (session.run steps).2.server.database :=
  Session.run_induction (P := fun _ here => SoundDatabase here.server.database) steps hs
    fun _ _ step _ hp => Session.step_sound hp step

theorem Session.run_sound_of_empty {session : Session} (hempty : session.server.database = {}) (steps : List Step) :
    SoundDatabase (session.run steps).2.server.database := by
  apply Session.run_sound
  rw [hempty]
  exact SoundDatabase.empty

/-! ## What is stored -/

theorem Table.Sound.txids_ne {t : Table MoveTx} (ht : t.Sound moveTxs.clash MoveTx.Valid) :
    t.rows.Pairwise fun a b => Hex.lowercase a.moveTxid ≠ Hex.lowercase b.moveTxid := by
  refine ht.distinct.imp_of_mem ?_
  intro a b ha hb hclash
  rw [(ht.valid a ha).moveTxid.lowercase_eq, (ht.valid b hb).moveTxid.lowercase_eq]
  intro hsame
  simp [moveTxs, hsame] at hclash

/-- At every point of a run from a server without tables, every stored row has the form of its columns, no two rows of
a table have one key, and no two moves have one transaction, in whatever case it is written. -/
theorem Session.stored_rows_sound (start : Session) (hempty : start.server.database = {}) (steps : List Step)
    (n : Nat) :
    (∀ t, (start.run (steps.take n)).2.server.database.depositRequests = some t →
        (∀ row ∈ t.rows, row.Valid) ∧ t.rows.Pairwise fun a b => a.id ≠ b.id) ∧
      (∀ t, (start.run (steps.take n)).2.server.database.moveTxs = some t →
        (∀ row ∈ t.rows, row.Valid) ∧ (t.rows.Pairwise fun a b => a.id ≠ b.id) ∧
          t.rows.Pairwise fun a b => Hex.lowercase a.moveTxid ≠ Hex.lowercase b.moveTxid) ∧
      ∀ t, (start.run (steps.take n)).2.server.database.withdrawalSigs = some t →
        (∀ row ∈ t.rows, row.Valid) ∧ t.rows.Pairwise fun a b => a.idx ≠ b.idx := by
  have hs : SoundDatabase (start.run (steps.take n)).2.server.database := by
    apply Session.run_sound
    rw [hempty]
    exact SoundDatabase.empty
  refine ⟨?_, ?_, ?_⟩
  · intro t ht
    exact ⟨(hs.deposits t ht).valid, Collection.keys_ne (hs.deposits t ht).distinct⟩
  · intro t ht
    exact ⟨(hs.moves t ht).valid, Collection.keys_ne (hs.moves t ht).distinct, (hs.moves t ht).txids_ne⟩
  · intro t ht
    exact ⟨(hs.withdrawals t ht).valid, Collection.keys_ne (hs.withdrawals t ht).distinct⟩

/-- The keys of the moves are set back between two moves, and a third repeats the first in another case. -/
def renumberedRun : List Step :=
  [.provision,
    .operation (.recordMoveTx "utxo" "recovery" (String.ofList (List.replicate 40 'A'))
      (String.ofList (List.replicate 64 'B'))),
    .intervention (.setNextKey .moveTxs 0),
    .operation (.recordMoveTx "utxo" "recovery" (String.ofList (List.replicate 40 'A'))
      (String.ofList (List.replicate 64 'C'))),
    .operation (.recordMoveTx "utxo" "recovery" (String.ofList (List.replicate 40 'A'))
      (String.ofList (List.replicate 64 'b')))]

theorem renumberedRun_sound :
    ∃ t, (Session.run {} (renumberedRun.take 5)).2.server.database.moveTxs = some t ∧
      t.rows.map MoveTx.id = [1, 0] ∧ (∀ row ∈ t.rows, row.Valid) ∧
      t.rows.Pairwise fun a b => Hex.lowercase a.moveTxid ≠ Hex.lowercase b.moveTxid := by
  have hkeys : ((Session.run {} (renumberedRun.take 5)).2.server.database.moveTxs.map
      fun t => t.rows.map MoveTx.id) = some [1, 0] := by decide +kernel
  obtain ⟨t, ht, hids⟩ := Option.map_eq_some_iff.mp hkeys
  obtain ⟨_, hmoves, _⟩ := Session.stored_rows_sound {} rfl renumberedRun 5
  obtain ⟨hvalid, _, htxids⟩ := hmoves t ht
  exact ⟨t, ht, hids, hvalid, htxids⟩

end BridgeLedger
