import BridgeLedger.Query

/-!
# What queries do to a table

An insertion has three outcomes (`Table.insert_cases`), and only one of them adds a row, at the end. So rows that may
not stand together never do (`Table.insert_distinct`), and keys below the next one stay below it
(`Table.insert_fresh`). A selection is the filtered table in the order of its keys, strictly so where no two rows
have one key (`Table.select_ordered`). All other queries leave the database alone (`Query.Reads`).
-/

namespace BridgeLedger

section
variable {ρ : Type}

/-! ## Insertions -/

theorem Table.insert_cases (t : Table ρ) (clash : ρ → ρ → Bool) (row : Int → ρ) :
    (maxKey < t.nextKey ∧ t.insert clash row = (.error .sequenceExhausted, t)) ∨
      (t.nextKey ≤ maxKey ∧ (∃ old ∈ t.rows, clash (row t.nextKey) old = true) ∧
        t.insert clash row = (.error .uniqueViolation, { t with nextKey := t.nextKey + 1 })) ∨
      (t.nextKey ≤ maxKey ∧ (∀ old ∈ t.rows, clash (row t.nextKey) old = false) ∧
        t.insert clash row = (.ok t.nextKey, { rows := t.rows ++ [row t.nextKey], nextKey := t.nextKey + 1 })) := by
  by_cases hmax : maxKey < t.nextKey
  · exact .inl ⟨hmax, by simp only [Table.insert, if_pos hmax]⟩
  · refine .inr ?_
    cases hany : t.rows.any (clash (row t.nextKey)) with
    | true =>
      refine .inl ⟨Int.not_lt.mp hmax, List.any_eq_true.mp hany, ?_⟩
      simp only [Table.insert, if_neg hmax, hany, ite_true]
    | false =>
      refine .inr ⟨Int.not_lt.mp hmax, ?_, ?_⟩
      · simpa using hany
      · simp only [Table.insert, if_neg hmax, hany, Bool.false_eq_true, ite_false]

theorem Table.insert_rows (t : Table ρ) (clash : ρ → ρ → Bool) (row : Int → ρ) :
    (t.insert clash row).2.rows = t.rows ++ (t.insert clash row).1.toOption.toList.map row := by
  rcases t.insert_cases clash row with ⟨_, h⟩ | ⟨_, _, h⟩ | ⟨_, _, h⟩ <;> simp [h, Except.toOption]

def Table.Distinct (t : Table ρ) (clash : ρ → ρ → Bool) : Prop :=
  t.rows.Pairwise fun a b => clash a b = false

theorem Table.insert_distinct {t : Table ρ} {clash : ρ → ρ → Bool} (hcomm : ∀ a b, clash a b = clash b a)
    (row : Int → ρ) (hd : t.Distinct clash) : (t.insert clash row).2.Distinct clash := by
  rcases t.insert_cases clash row with ⟨_, h⟩ | ⟨_, _, h⟩ | ⟨_, hfree, h⟩ <;> rw [h]
  · exact hd
  · exact hd
  · refine List.pairwise_append.mpr ⟨hd, List.pairwise_singleton .., ?_⟩
    intro a ha b hb
    rw [List.mem_singleton.mp hb, hcomm]
    exact hfree a ha

/-- Every key in the table was given out: it lies below the next one. -/
def Table.Fresh (t : Table ρ) (key : ρ → Int) : Prop := ∀ row ∈ t.rows, key row < t.nextKey

section
variable {t : Table ρ} {key : ρ → Int} (hf : t.Fresh key)
include hf

theorem Table.Fresh.skip : Table.Fresh { t with nextKey := t.nextKey + 1 } key := by
  intro old hold
  have := hf old hold
  show key old < t.nextKey + 1
  omega

theorem Table.Fresh.append {row : ρ} (hrow : key row = t.nextKey) :
    Table.Fresh { rows := t.rows ++ [row], nextKey := t.nextKey + 1 } key := by
  intro old hold
  show key old < t.nextKey + 1
  rcases List.mem_append.mp hold with hold | hold
  · have := hf old hold
    omega
  · rw [List.mem_singleton.mp hold, hrow]
    omega

theorem Table.insert_fresh {clash : ρ → ρ → Bool} {row : Int → ρ} (hkey : ∀ n, key (row n) = n) :
    (t.insert clash row).2.Fresh key := by
  rcases t.insert_cases clash row with ⟨_, h⟩ | ⟨_, _, h⟩ | ⟨_, _, h⟩ <;> rw [h]
  · exact hf
  · exact hf.skip
  · exact hf.append (hkey _)

end

/-! ## Selections -/

theorem Table.mem_select {t : Table ρ} {key : ρ → Int} {p : ρ → Bool} {row : ρ} :
    row ∈ t.select key p ↔ row ∈ t.rows ∧ p row = true := by
  simp [Table.select]

/-- Where keys are unique, a selection lists each row once, in the order of the keys. -/
theorem Table.select_ordered {t : Table ρ} {key : ρ → Int} (p : ρ → Bool)
    (hkeys : t.rows.Pairwise fun a b => key a ≠ key b) :
    (t.select key p).Pairwise fun a b => key a < key b := by
  have hsorted : (t.select key p).Pairwise fun a b => decide (key a ≤ key b) = true := by
    apply List.pairwise_mergeSort
    · intro a b c hab hbc
      simp only [decide_eq_true_eq] at hab hbc ⊢
      omega
    · intro a b
      simp only [Bool.or_eq_true, decide_eq_true_eq]
      omega
  have hne : (t.select key p).Pairwise fun a b => key a ≠ key b :=
    (List.mergeSort_perm (t.rows.filter p) _).symm.pairwise (hkeys.filter p) fun h => h.symm
  refine hsorted.imp₂ ?_ hne
  intro a b hle hne
  simp only [decide_eq_true_eq] at hle
  omega

theorem Collection.exists_table {c : Collection ρ} {db : Database} (htables : [c.name].all db.has = true) :
    ∃ t, c.table db = some t := by
  rw [List.all_cons, List.all_nil, Bool.and_true, c.has_name] at htables
  exact Option.isSome_iff_exists.mp htables

theorem Collection.keys_ne {c : Collection ρ} {t : Table ρ} (hd : t.Distinct c.clash) :
    t.rows.Pairwise fun a b => c.key a ≠ c.key b := by
  refine hd.imp fun {a b} hclash hkey => ?_
  rw [c.clash_of_key a b hkey] at hclash
  cases hclash

/-! ## Queries -/

def Query.Reads {α : Type} (query : Query α) : Prop := ∀ now db, (query.effect now db).2 = db

theorem Query.rows_reads (c : Collection ρ) (text : String) (parameter : Parameter) (p : ρ → Bool) :
    (Query.rows c text parameter p).Reads := by
  intro now db
  simp only [Query.rows]
  split <;> rfl

theorem Query.row?_reads (c : Collection ρ) (text : String) (parameter : Parameter) (p : ρ → Bool) :
    (Query.row? c text parameter p).Reads := by
  intro now db
  simp only [Query.row?]
  split
  · rfl
  · split <;> rfl

theorem countRows_reads : countRows.Reads := by
  intro now ⟨versions, requests, txs, sigs⟩
  cases requests <;> cases txs <;> cases sigs <;> rfl

theorem Query.insert_effect {c : Collection ρ} {db : Database} {t : Table ρ} (ht : c.table db = some t)
    (text : String) (parameters : List Parameter) (row : Timestamp → Int → ρ) (now : Timestamp) :
    (Query.insert c text parameters row).effect now db =
      ((t.insert c.clash (row now)).1.mapError .refused, c.withTable db (t.insert c.clash (row now)).2) := by
  simp only [Query.insert, ht]

theorem Query.rows_effect {c : Collection ρ} {db : Database} {t : Table ρ} (ht : c.table db = some t) (text : String)
    (parameter : Parameter) (p : ρ → Bool) (now : Timestamp) :
    (Query.rows c text parameter p).effect now db = (.ok (t.select c.key p), db) := by
  simp only [Query.rows, ht]

end

end BridgeLedger
