import BridgeLedger.Proofs.SoundTables

/-!
# What lookups find

Every lookup stands for a plain query of one table, in which nothing is checked (`Operation.lookup?`). It answers what
that query finds, whatever it is asked for: a value that fails its check, so that nothing is sent, is in no row of a
sound table (`Plan.Shortens`). And since no two rows clash, no query for one row ever finds two.
-/

namespace BridgeLedger

/-! ## Plain lookups -/

/-- A look at one table, for all the rows with a property or for the one that has it, and the reply made of them. -/
inductive Lookup where
  | all {ρ : Type} (c : Collection ρ) (p : ρ → Bool) (reply : List ρ → Reply)
  | one {ρ : Type} (c : Collection ρ) (p : ρ → Bool) (reply : Option ρ → Reply)

def Operation.lookup? : Operation → Option Lookup
  | .depositRequest id => some (.one depositRequests (·.id == id) .depositRequest)
  | .depositRequestsFor evm => some (.all depositRequests (·.evmAddress == Hex.lowercase evm) .depositRequests)
  | .depositRequestsSpending utxo => some (.all depositRequests (·.startUtxo == utxo) .depositRequests)
  | .moveTx id => some (.one moveTxs (·.id == id) .moveTx)
  | .moveTxWithTxid txid => some (.one moveTxs (·.moveTxid == Hex.lowercase txid) .moveTx)
  | .moveTxsFor evm => some (.all moveTxs (·.evmAddress == Hex.lowercase evm) .moveTxs)
  | .moveTxsSpending utxo => some (.all moveTxs (·.startUtxo == utxo) .moveTxs)
  | .withdrawalSig idx => some (.one withdrawalSigs (·.idx == idx) .withdrawalSig)
  | .withdrawalSigsFor txid => some (.all withdrawalSigs (·.bridgeFundTxid == Hex.lowercase txid) .withdrawalSigs)
  | .recordDepositRequest _ _ _ | .recordMoveTx _ _ _ _ | .recordWithdrawalSig _ _ | .counts => none

/-- The answer lists all the rows, each once and in the order of their keys, or shows the one row if there is one. -/
def Lookup.Answers (db : Database) (answer : Except LedgerError Reply) : Lookup → Prop
  | .all c p reply => ∀ t, c.table db = some t → ∃ rows, answer = .ok (reply rows) ∧
      (∀ row, row ∈ rows ↔ row ∈ t.rows ∧ p row = true) ∧ rows.Pairwise fun a b => c.key a < c.key b
  | .one c p reply => ∀ t, c.table db = some t → ∃ found, answer = .ok (reply found) ∧
      ∀ row, found = some row ↔ row ∈ t.rows ∧ p row = true

/-! ## Short cuts -/

inductive Plan.Shortens {α : Type} (query : Query α) (db : Database) : Plan α → Prop
  | asked : Plan.Shortens query db (.lookup query)
  | decided (nothing : α)
      (agrees : query.tables.all db.has = true → ∀ now, (query.effect now db).1 = .ok nothing) :
      Plan.Shortens query db (.decided (.ok nothing) [])

/-- The connection is open, and no pending fault fits what the plan sends. -/
def Session.Undisturbed {α : Type} (session : Session) : Plan α → Prop
  | .decided _ _ => session.connection = .live
  | .ask query _ => session.connection = .live ∧ session.server.quiet .prepare query.text = true ∧
      session.server.quiet .execute query.text = true

theorem Session.undisturbed_of_no_faults {α : Type} {session : Session} (hlive : session.connection = .live)
    (hnone : session.server.faults = []) (plan : Plan α) : session.Undisturbed plan := by
  cases plan <;> simp [Session.Undisturbed, Server.quiet, hlive, hnone]

theorem answer_ne_rowCount {α : Type} {outcome : Except ServerError α} (hne : outcome ≠ .error .rowCount)
    (wrap : α → Reply) : (outcome.mapError LedgerError.server).map wrap ≠ .error (.server .rowCount) := by
  cases outcome with
  | error cause =>
    intro h
    exact hne (congrArg _ (LedgerError.server.inj (Except.error.inj h)))
  | ok answer =>
    intro h
    cases h

section
variable {α : Type} {session : Session} {query : Query α} {plan : Plan α}

theorem Session.perform_shortened (wrap : α → Reply) (hplan : plan.Shortens query session.server.database)
    (htables : query.tables.all session.server.database.has = true) (hquiet : session.Undisturbed plan) :
    (session.perform wrap plan).1.answer =
      ((query.effect session.server.clock session.server.database).1.mapError .server).map wrap := by
  cases hplan with
  | asked =>
    obtain ⟨hlive, hprepare, hexecute⟩ := hquiet
    have hr : session.reaches query = true := by
      simp [Session.reaches, Line.reaches, hlive, hprepare, htables, hexecute]
    rw [Plan.lookup, Session.perform_of_reaches _ wrap hr]
  | decided nothing agrees =>
    rw [agrees htables]
    rcases session.perform_cases wrap (.decided (.ok nothing) []) with ⟨isOpen, _, _, hreport, _⟩ | ⟨habsent, _⟩
    · rw [hreport]
      rfl
    · rw [show session.connection = .live from hquiet] at habsent
      cases habsent

theorem Session.shortened_ne_rowCount (wrap : α → Reply) (hplan : plan.Shortens query session.server.database)
    (hquery : query.tables.all session.server.database.has = true →
      ∀ now, (query.effect now session.server.database).1 ≠ .error .rowCount) :
    (session.perform wrap plan).1.answer ≠ .error (.server .rowCount) := by
  cases hplan with
  | asked =>
    rw [Plan.lookup]
    cases hr : session.reaches query with
    | true =>
      rw [Session.perform_of_reaches _ wrap hr]
      exact answer_ne_rowCount (hquery (Session.reaches_tables hr) session.server.clock) wrap
    | false =>
      obtain ⟨_, cause, hne, hanswer⟩ := Session.perform_of_not_reaches
        (fun outcome : Except ServerError α => (outcome.mapError LedgerError.server, ([] : List LogLine))) wrap hr
      have hcause : (.error cause : Except ServerError α) ≠ .error .rowCount := fun h => hne (Except.error.inj h)
      rcases hanswer with hanswer | ⟨hanswer, _⟩ <;> rw [hanswer] <;> exact answer_ne_rowCount hcause wrap
  | decided nothing _ =>
    obtain ⟨_, hanswer⟩ := session.perform_decided wrap (.ok nothing) []
    rcases hanswer with hanswer | ⟨cause, hfail, hanswer⟩ <;> rw [hanswer]
    · intro h
      cases h
    · exact fun h => hfail.ne_rowCount (LedgerError.server.inj (Except.error.inj h))

end

/-! ## Two kinds of query -/

section
variable {ρ : Type} {c : Collection ρ} {db : Database} {t : Table ρ} {p : ρ → Bool}
  {text : String} {parameter : Parameter}

theorem Query.rows_nothing (hnone : ∀ t, c.table db = some t → ∀ row ∈ t.rows, p row = false)
    (htables : (Query.rows c text parameter p).tables.all db.has = true) (now : Timestamp) :
    ((Query.rows c text parameter p).effect now db).1 = .ok [] := by
  obtain ⟨t, ht⟩ := Collection.exists_table htables
  rw [Query.rows_effect ht]
  have hempty : t.select c.key p = [] := by
    rw [List.eq_nil_iff_forall_not_mem]
    intro row hrow
    obtain ⟨hmem, hp⟩ := Table.mem_select.mp hrow
    rw [hnone t ht row hmem] at hp
    cases hp
  rw [hempty]

theorem Query.row?_nothing (hnone : ∀ t, c.table db = some t → ∀ row ∈ t.rows, p row = false)
    (htables : (Query.row? c text parameter p).tables.all db.has = true) (now : Timestamp) :
    ((Query.row? c text parameter p).effect now db).1 = .ok none := by
  obtain ⟨t, ht⟩ := Collection.exists_table htables
  have hempty : t.rows.filter p = [] := List.filter_eq_nil_iff.mpr fun row hmem => by simp [hnone t ht row hmem]
  simp only [Query.row?, ht, hempty]

theorem Query.row?_effect (ht : c.table db = some t) (text : String) (parameter : Parameter)
    (hone : t.rows.Pairwise fun a b => ¬ (p a = true ∧ p b = true)) (now : Timestamp) :
    ∃ found, ((Query.row? c text parameter p).effect now db).1 = .ok found ∧
      ∀ row, found = some row ↔ row ∈ t.rows ∧ p row = true := by
  simp only [Query.row?, ht, ← List.mem_filter]
  have hpair := hone.filter p
  have hmem : ∀ row ∈ t.rows.filter p, p row = true := fun row hrow => (List.mem_filter.mp hrow).2
  generalize t.rows.filter p = rows at hpair hmem ⊢
  rcases rows with _ | ⟨row, _ | ⟨second, rest⟩⟩
  · exact ⟨none, rfl, by simp⟩
  · exact ⟨some row, rfl, by simp [eq_comm]⟩
  · -- here the server would complain of the number of rows
    have hboth := List.rel_of_pairwise_cons hpair (List.mem_cons_self ..)
    exact absurd ⟨hmem row (by simp), hmem second (by simp)⟩ hboth

end

section
variable {α ρ : Type} {c : Collection ρ} {column : ρ → String} {db : Database} {query : String → Query α} {nothing : α}
  (hnothing : ∀ key, (∀ t, c.table db = some t → ∀ row ∈ t.rows, (column row == key) = false) →
    (query key).tables.all db.has = true → ∀ now, ((query key).effect now db).1 = .ok nothing)
  {field value : String}
include hnothing

theorem Plan.lookupHex_shortens {length : Nat} (heven : length % 2 = 0)
    (hnormal : ∀ t, c.table db = some t → ∀ row ∈ t.rows, NormalHex length (column row)) :
    (Plan.lookupChecked (checkHex field value length) nothing query).Shortens (query (Hex.lowercase value)) db := by
  cases hcheck : checkHex field value length with
  | error cause =>
    refine .decided nothing (hnothing _ fun t ht row hrow => ?_)
    exact beq_false_of_ne ((hnormal t ht row hrow).ne_of_checkHex heven hcheck)
  | ok key =>
    obtain ⟨_, rfl⟩ := (checkHex_ok_iff heven).mp hcheck
    exact .asked

theorem Plan.lookupText_shortens
    (hstorable : ∀ t, c.table db = some t → ∀ row ∈ t.rows, Storable (column row)) :
    (Plan.lookupChecked (checkText field value) nothing fun _ => query value).Shortens (query value) db := by
  cases hcheck : checkText field value with
  | error cause =>
    refine .decided nothing (hnothing _ fun t ht row hrow => ?_)
    exact beq_false_of_ne ((hstorable t ht row hrow).ne_of_checkText hcheck)
  | ok _ => exact .asked

end

/-! ## Each lookup -/

def Session.LooksUp {α : Type} (session : Session) (look : Lookup) (wrap : α → Reply) (plan : Plan α) : Prop :=
  (session.Undisturbed plan → look.Answers session.server.database (session.perform wrap plan).1.answer) ∧
    (session.perform wrap plan).1.answer ≠ .error (.server .rowCount)

section
variable {session : Session} {ρ : Type} {c : Collection ρ} {p : ρ → Bool} {text : String} {parameter : Parameter}

theorem Session.looksUp_all {plan : Plan (List ρ)}
    (hdistinct : ∀ t, c.table session.server.database = some t → t.Distinct c.clash)
    (hplan : plan.Shortens (.rows c text parameter p) session.server.database) (reply : List ρ → Reply) :
    session.LooksUp (.all c p reply) reply plan := by
  constructor
  · intro hquiet t ht
    have htables : (Query.rows c text parameter p).tables.all session.server.database.has = true := by
      simp [Query.rows, c.has_name, ht]
    rw [Session.perform_shortened reply hplan htables hquiet, Query.rows_effect ht]
    exact ⟨_, rfl, fun row => Table.mem_select, Table.select_ordered p (Collection.keys_ne (hdistinct t ht))⟩
  · refine Session.shortened_ne_rowCount reply hplan fun htables now => ?_
    obtain ⟨t, ht⟩ := Collection.exists_table htables
    rw [Query.rows_effect ht]
    intro h
    cases h

theorem Session.looksUp_one {plan : Plan (Option ρ)}
    (hone : ∀ t, c.table session.server.database = some t → t.rows.Pairwise fun a b => ¬ (p a = true ∧ p b = true))
    (hplan : plan.Shortens (.row? c text parameter p) session.server.database) (reply : Option ρ → Reply) :
    session.LooksUp (.one c p reply) reply plan := by
  constructor
  · intro hquiet t ht
    have htables : (Query.row? c text parameter p).tables.all session.server.database.has = true := by
      simp [Query.row?, c.has_name, ht]
    obtain ⟨found, hfound, hiff⟩ := Query.row?_effect ht text parameter (hone t ht) session.server.clock
    rw [Session.perform_shortened reply hplan htables hquiet, hfound]
    exact ⟨found, rfl, hiff⟩
  · refine Session.shortened_ne_rowCount reply hplan fun htables now => ?_
    obtain ⟨t, ht⟩ := Collection.exists_table htables
    obtain ⟨found, hfound, _⟩ := Query.row?_effect ht text parameter (hone t ht) now
    rw [hfound]
    intro h
    cases h

end

theorem Collection.one_with_key {ρ : Type} {c : Collection ρ} {t : Table ρ} (hd : t.Distinct c.clash) (key : Int) :
    t.rows.Pairwise fun a b => ¬ ((c.key a == key) = true ∧ (c.key b == key) = true) := by
  refine (Collection.keys_ne hd).imp fun {a b} hne => ?_
  rintro ⟨ha, hb⟩
  exact hne ((beq_iff_eq.mp ha).trans (beq_iff_eq.mp hb).symm)

theorem one_with_txid {t : Table MoveTx} (hd : t.Distinct moveTxs.clash) (txid : String) :
    t.rows.Pairwise fun a b => ¬ ((a.moveTxid == txid) = true ∧ (b.moveTxid == txid) = true) := by
  refine hd.imp fun {a b} hclash => ?_
  rintro ⟨ha, hb⟩
  simp [moveTxs, beq_iff_eq.mp ha, beq_iff_eq.mp hb] at hclash

section
variable {db : Database} (hs : SoundDatabase db)
include hs

theorem Plan.depositRequestsFor_shortens (evm : String) :
    (Plan.depositRequestsFor evm).Shortens (depositRequestsByEvmAddress (Hex.lowercase evm)) db :=
  Plan.lookupHex_shortens (fun _ => Query.rows_nothing) rfl
    fun t ht row hrow => ((hs.deposits t ht).valid row hrow).evmAddress

theorem Plan.depositRequestsSpending_shortens (utxo : String) :
    (Plan.depositRequestsSpending utxo).Shortens (depositRequestsByStartUtxo utxo) db :=
  Plan.lookupText_shortens (fun _ => Query.rows_nothing)
    fun t ht row hrow => ((hs.deposits t ht).valid row hrow).startUtxo

theorem Plan.moveTxWithTxid_shortens (txid : String) :
    (Plan.moveTxWithTxid txid).Shortens (moveTxByTxid (Hex.lowercase txid)) db :=
  Plan.lookupHex_shortens (fun _ => Query.row?_nothing) rfl
    fun t ht row hrow => ((hs.moves t ht).valid row hrow).moveTxid

theorem Plan.moveTxsFor_shortens (evm : String) :
    (Plan.moveTxsFor evm).Shortens (moveTxsByEvmAddress (Hex.lowercase evm)) db :=
  Plan.lookupHex_shortens (fun _ => Query.rows_nothing) rfl
    fun t ht row hrow => ((hs.moves t ht).valid row hrow).evmAddress

theorem Plan.moveTxsSpending_shortens (utxo : String) :
    (Plan.moveTxsSpending utxo).Shortens (moveTxsByStartUtxo utxo) db :=
  Plan.lookupText_shortens (fun _ => Query.rows_nothing)
    fun t ht row hrow => ((hs.moves t ht).valid row hrow).startUtxo

theorem Plan.withdrawalSigsFor_shortens (txid : String) :
    (Plan.withdrawalSigsFor txid).Shortens (withdrawalSigsByTxid (Hex.lowercase txid)) db :=
  Plan.lookupHex_shortens (fun _ => Query.rows_nothing) rfl
    fun t ht row hrow => ((hs.withdrawals t ht).valid row hrow).bridgeFundTxid

end

theorem Session.operate_lookup {session : Session} (hs : SoundDatabase session.server.database) {call : Operation}
    {look : Lookup} (hlook : call.lookup? = some look) :
    session.LooksUp look call.planned.wrap call.planned.plan := by
  have hrequests := fun t ht => (hs.deposits t ht).distinct
  have hmoves := fun t ht => (hs.moves t ht).distinct
  have hsigs := fun t ht => (hs.withdrawals t ht).distinct
  cases call <;> cases hlook
  case depositRequest id => exact Session.looksUp_one (fun t ht => Collection.one_with_key (hrequests t ht) id) .asked _
  case depositRequestsFor evm => exact Session.looksUp_all hrequests (Plan.depositRequestsFor_shortens hs evm) _
  case depositRequestsSpending utxo =>
    exact Session.looksUp_all hrequests (Plan.depositRequestsSpending_shortens hs utxo) _
  case moveTx id => exact Session.looksUp_one (fun t ht => Collection.one_with_key (hmoves t ht) id) .asked _
  case moveTxWithTxid txid =>
    exact Session.looksUp_one (fun t ht => one_with_txid (hmoves t ht) _) (Plan.moveTxWithTxid_shortens hs txid) _
  case moveTxsFor evm => exact Session.looksUp_all hmoves (Plan.moveTxsFor_shortens hs evm) _
  case moveTxsSpending utxo => exact Session.looksUp_all hmoves (Plan.moveTxsSpending_shortens hs utxo) _
  case withdrawalSig idx => exact Session.looksUp_one (fun t ht => Collection.one_with_key (hsigs t ht) idx) .asked _
  case withdrawalSigsFor txid => exact Session.looksUp_all hsigs (Plan.withdrawalSigsFor_shortens hs txid) _

/-- In every state that a run from a server without tables leads to, a lookup over an open connection that no pending
fault disturbs answers what the plain lookup finds, for whatever value; and no lookup ever complains of a number of
rows. -/
theorem Session.lookups_agree (start : Session) (hempty : start.server.database = {}) (steps : List Step)
    {call : Operation} {look : Lookup} (hlook : call.lookup? = some look) :
    ((start.run steps).2.Undisturbed call.planned.plan →
        look.Answers (start.run steps).2.server.database ((start.run steps).2.operate call).1.answer) ∧
      ((start.run steps).2.operate call).1.answer ≠ .error (.server .rowCount) := by
  rw [Session.operate_eq]
  refine Session.operate_lookup (Session.run_sound ?_ steps) hlook
  rw [hempty]
  exact SoundDatabase.empty

def capitalRequest : List Step :=
  [.provision, .operation (.recordDepositRequest "utxo" "recovery" (String.ofList (List.replicate 40 'A')))]

theorem capitalRequest_found :
    (Operation.depositRequestsFor (String.ofList (List.replicate 40 'A'))).lookup? =
        some (.all depositRequests (·.evmAddress == Hex.lowercase (String.ofList (List.replicate 40 'A')))
          .depositRequests) ∧
      ∃ rows, ((Session.run {} capitalRequest).2.operate
          (.depositRequestsFor (String.ofList (List.replicate 40 'A')))).1.answer = .ok (.depositRequests rows) ∧
        ∀ row, row ∈ rows ↔ row = ⟨1, "utxo", "recovery", String.ofList (List.replicate 40 'a'), ⟨0⟩⟩ := by
  have hlower : Hex.lowercase (String.ofList (List.replicate 40 'A')) = String.ofList (List.replicate 40 'a') := by
    decide +kernel
  have hsession : (Session.run {} capitalRequest).2 = ⟨{ database :=
      { versions := some [1]
        depositRequests := some ⟨[⟨1, "utxo", "recovery", String.ofList (List.replicate 40 'a'), ⟨0⟩⟩], 2⟩
        moveTxs := some {}
        withdrawalSigs := some {} } }, .live⟩ := by decide +kernel
  obtain ⟨hanswers, _⟩ := @Session.lookups_agree {} rfl capitalRequest
    (.depositRequestsFor (String.ofList (List.replicate 40 'A'))) _ rfl
  rw [hsession] at hanswers ⊢
  obtain ⟨rows, hrows, hiff, _⟩ := hanswers (Session.undisturbed_of_no_faults rfl rfl _) _ rfl
  refine ⟨rfl, rows, hrows, fun row => ?_⟩
  rw [hiff, hlower, List.mem_singleton]
  constructor
  · exact And.left
  · rintro rfl
    exact ⟨rfl, beq_self_eq_true _⟩

end BridgeLedger
